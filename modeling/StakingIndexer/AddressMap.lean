import StakingIndexer.Address

/-!
# Maps keyed by addresses

Entries stand in ascending order of their addresses, which makes a map equal to
every map with the same lookups. Inserting replaces the entry of an equal address.
-/

namespace StakingIndexer

/-- A finite map from addresses, kept sorted. -/
structure AddressMap (β : Type) where
  entries : List (Address × β)
  sorted : entries.Pairwise fun a b => a.1 < b.1

namespace AddressMap

variable {β γ : Type}

/-- Put an entry at its place, replacing one of the same address. -/
def insertEntry (k : Address) (v : β) : List (Address × β) → List (Address × β)
  | [] => [(k, v)]
  | e :: rest =>
    if k < e.1 then (k, v) :: e :: rest
    else if e.1 < k then e :: insertEntry k v rest
    else (k, v) :: rest

theorem mem_insertEntry {k : Address} {v : β} {l : List (Address × β)} {e : Address × β}
    (h : e ∈ insertEntry k v l) : e = (k, v) ∨ e ∈ l := by
  induction l with
  | nil => simpa [insertEntry] using h
  | cons a l ih =>
    simp only [insertEntry] at h
    split at h
    · simpa using h
    · split at h
      · rcases List.mem_cons.1 h with h | h
        · simp [h]
        · rcases ih h with h | h <;> simp [h]
      · rcases List.mem_cons.1 h with h | h <;> simp [h]

theorem sorted_insertEntry (k : Address) (v : β) {l : List (Address × β)}
    (h : l.Pairwise fun a b => a.1 < b.1) :
    (insertEntry k v l).Pairwise fun a b => a.1 < b.1 := by
  induction l with
  | nil => simp [insertEntry]
  | cons a l ih =>
    obtain ⟨ha, hl⟩ := List.pairwise_cons.1 h
    simp only [insertEntry]
    split
    · next hk =>
      refine List.pairwise_cons.2 ⟨fun b hb => ?_, h⟩
      rcases List.mem_cons.1 hb with rfl | hb
      · exact hk
      · exact Nat.lt_trans hk (ha b hb)
    · next hk =>
      split
      · next hk' =>
        refine List.pairwise_cons.2 ⟨fun b hb => ?_, ih hl⟩
        rcases mem_insertEntry hb with rfl | hb
        · exact hk'
        · exact ha b hb
      · next hk' =>
        refine List.pairwise_cons.2 ⟨fun b hb => ?_, hl⟩
        exact Nat.lt_of_le_of_lt (Nat.le_of_not_lt hk') (ha b hb)

def empty : AddressMap β := ⟨[], List.Pairwise.nil⟩

instance : Inhabited (AddressMap β) := ⟨empty⟩

instance [BEq β] : BEq (AddressMap β) := ⟨fun a b => a.entries == b.entries⟩

def isEmpty (m : AddressMap β) : Bool := m.entries.isEmpty

def size (m : AddressMap β) : Nat := m.entries.length

def keys (m : AddressMap β) : List Address := m.entries.map (·.1)

/-- Values in ascending order of their addresses. -/
def values (m : AddressMap β) : List β := m.entries.map (·.2)

def get? (m : AddressMap β) (k : Address) : Option β :=
  (m.entries.find? fun e => e.1 = k).map (·.2)

def insert (m : AddressMap β) (k : Address) (v : β) : AddressMap β :=
  ⟨insertEntry k v m.entries, sorted_insertEntry k v m.sorted⟩

def erase (m : AddressMap β) (k : Address) : AddressMap β :=
  ⟨m.entries.filter fun e => e.1 ≠ k, m.sorted.filter _⟩

/-- Change the value at an address, or start one from a default. -/
def update (m : AddressMap β) (k : Address) (default : β) (f : β → β) : AddressMap β :=
  m.insert k (f ((m.get? k).getD default))

/-- Insert every pair in order, so that the last one of an address stays. -/
def ofList (l : List (Address × β)) : AddressMap β :=
  l.foldl (fun m e => m.insert e.1 e.2) empty

end AddressMap
end StakingIndexer
