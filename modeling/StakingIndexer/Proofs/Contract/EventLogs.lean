import Mathlib
import StakingIndexer.Contract.Client
import StakingIndexer.Proofs.Address
import StakingIndexer.Proofs.Reader.Answers

/-!
# Events and their logs

The kinds of events have distinct signature hashes, so a log is read as one kind of event at most.
Each kind says how many of its parameters are topics and how many are words of the data. What is
emitted is therefore read back, and a log that lacks any of this is undecodable.
-/

namespace StakingIndexer

/-! ## Words -/

namespace Abi

theorem toAmount_amountWord (a : Amount) : toAmount (amountWord a) = a := by
  have hsize : (256 : Nat) ^ 32 = Amount.size := by decide
  rw [toAmount, amountWord, word, Bytes.toNatBE_ofNatBE, hsize, Nat.mod_eq_of_lt a.toNat_lt,
    Amount.clampNat, dif_pos a.toNat_lt]

theorem ofBytes_addressWord (a : Address) : Address.ofBytes (addressWord a) = a := by
  apply Address.ext
  have ha := a.toNat_lt
  have hword : a.toNat < 256 ^ 32 := ha.trans (by decide)
  change Bytes.toNatBE (word a.toNat) % Address.size = a.toNat
  rw [word, Bytes.toNatBE_ofNatBE, Nat.mod_eq_of_lt hword, Nat.mod_eq_of_lt ha]

def firstWords (data : Bytes) (n : Nat) : List Bytes :=
  (List.range n).map fun i => (data.drop (32 * i)).take 32

@[simp] theorem length_firstWords (data : Bytes) (n : Nat) : (firstWords data n).length = n := by
  simp [firstWords]

theorem firstWords_succ (data : Bytes) (n : Nat) :
    firstWords data (n + 1) = data.take 32 :: firstWords (data.drop 32) n := by
  simp [firstWords, List.range_succ_eq_map, Function.comp_def, List.drop_drop, Nat.mul_add,
    Nat.add_comm 32]

theorem firstWords_flatten {ws : List Bytes} (h : ∀ w ∈ ws, w.length = 32) :
    firstWords ws.flatten ws.length = ws := by
  induction ws with
  | nil => rfl
  | cons w ws ih =>
    have hw := h w (by simp)
    rw [List.flatten_cons, List.length_cons, firstWords_succ, List.take_left' hw,
      List.drop_left' hw, ih fun v hv => h v (by simp [hv])]

theorem mapM_wordAt (data : Bytes) (n : Nat) :
    ((List.range n).mapM fun i => wordAt data (32 * i))
      = if 32 * n ≤ data.length then some (firstWords data n) else none := by
  induction n with
  | zero => simp [firstWords]
  | succ n ih =>
    rw [List.range_succ, List.mapM_append, ih]
    by_cases h : 32 * (n + 1) ≤ data.length
    · have hbefore : 32 * n ≤ data.length := by omega
      have hlast : 32 * n + 32 ≤ data.length := by omega
      simp [hbefore, hlast, h, wordAt, firstWords, List.range_succ]
    · have hlast : ¬ 32 * n + 32 ≤ data.length := by omega
      by_cases hbefore : 32 * n ≤ data.length <;> simp [hbefore, hlast, h, wordAt]

end Abi

/-! ## Kinds of events -/

namespace EventKind

theorem mem_all (k : EventKind) : k ∈ all := by
  cases k <;> decide

/-- The number that the first topic of a kind's logs spells. -/
def signatureHash : EventKind → Nat
  | transfer => 0xddf252ad1be2c89b69c2b068fc378daa952ba7f163c4a11628f55a4df523b3ef
  | deposited => 0x2da466a7b24304f47e87fa2e1e5a81b9831ce54fec19055ce277ca2f39ba42c4
  | redeemed => 0x4896181ff8f4543cc00db9fe9b6fb7e6f032b7eb772c72ab1ec1b4d2e03b9369
  | rewards => 0x61953b03ced70bb23c53b5a7058e431e3db88cf84a72660faea0849b785c43bd
  | losses => 0x28457ba4ae46aeb68ba5c1a1c15506fb3212bfff27da04dee70b81023a9ebc04

theorem topic_eq (k : EventKind) : k.topic = Bytes.ofNatBE 32 k.signatureHash := by
  cases k <;> decide +kernel

theorem topic_injective : Function.Injective topic := by
  have hnumber (k : EventKind) : Bytes.toNatBE k.topic = k.signatureHash := by
    rw [topic_eq, Bytes.toNatBE_ofNatBE]
    cases k <;> decide
  intro k l h
  have hhash : k.signatureHash = l.signatureHash := by rw [← hnumber, ← hnumber, h]
  cases k <;> cases l <;> simp_all [signatureHash]

theorem ofTopic?_eq_none {t : Bytes} : ofTopic? t = none ↔ ∀ k : EventKind, t ≠ k.topic := by
  rw [ofTopic?, List.find?_eq_none]
  constructor
  · intro h k ht
    exact h k (mem_all k) (by simp [ht])
  · intro h k _
    simpa using (h k).symm

theorem ofTopic?_eq_some {t : Bytes} {k : EventKind} : ofTopic? t = some k ↔ t = k.topic := by
  have hfound {l : EventKind} (h : ofTopic? t = some l) : t = l.topic := by
    simpa [eq_comm] using List.find?_some h
  constructor
  · exact hfound
  · intro ht
    cases h : ofTopic? t with
    | none => exact absurd ht (ofTopic?_eq_none.1 h k)
    | some l => rw [topic_injective ((hfound h).symm.trans ht)]

end EventKind

/-! ## Parameters -/

namespace EventPayload

theorem length_indexed (p : EventPayload) : p.words.1.length = p.kind.shape.1 := by
  cases p <;> rfl

theorem length_others (p : EventPayload) : p.words.2.length = p.kind.shape.2 := by
  cases p <;> rfl

theorem length_of_mem_words (p : EventPayload) : ∀ w ∈ p.words.2, w.length = 32 := by
  cases p <;> simp [words, Abi.amountWord, Abi.addressWord]

theorem ofWords?_words (p : EventPayload) : ofWords? p.kind (p.words.1 ++ p.words.2) = some p := by
  cases p <;> simp [words, kind, ofWords?, Abi.toAmount_amountWord, Abi.ofBytes_addressWord]

theorem exists_ofWords? {k : EventKind} {ws : List Bytes}
    (h : ws.length = k.shape.1 + k.shape.2) : ∃ p, ofWords? k ws = some p ∧ p.kind = k := by
  cases k with
  | transfer | rewards | losses =>
    obtain ⟨a, b, c, rfl⟩ := List.length_eq_three.1 h
    exact ⟨_, rfl, rfl⟩
  | deposited | redeemed =>
    obtain ⟨a, b, rfl⟩ := List.length_eq_two.1 h
    exact ⟨_, rfl, rfl⟩

end EventPayload

/-! ## Reading a log -/

namespace EventLog

theorem payload?_eq (k : EventKind) (indexed : List Bytes) (data : Bytes) :
    payload? k indexed data
      = if indexed.length = k.shape.1 ∧ 32 * k.shape.2 ≤ data.length
        then EventPayload.ofWords? k (indexed ++ Abi.firstWords data k.shape.2) else none := by
  unfold payload?
  dsimp only
  rw [Abi.mapM_wordAt]
  by_cases hindexed : indexed.length = k.shape.1
  · by_cases hdata : 32 * k.shape.2 ≤ data.length <;> simp [hindexed, hdata]
  · simp [hindexed]

theorem payload?_words (p : EventPayload) :
    payload? p.kind p.words.1 p.words.2.flatten = some p := by
  have hlength : p.words.2.flatten.length = 32 * p.kind.shape.2 := by
    rw [List.length_flatten, ← p.length_others, List.map_congr_left p.length_of_mem_words]
    simp [Nat.mul_comm]
  rw [payload?_eq, if_pos ⟨p.length_indexed, hlength.ge⟩, ← p.length_others,
    Abi.firstWords_flatten p.length_of_mem_words, p.ofWords?_words]

theorem length_topics_ofEvent (e : Event) : ∀ t ∈ (ofEvent e).topics, t.length = 32 := by
  change ∀ t ∈ e.payload.kind.topic :: e.payload.words.1, t.length = 32
  rw [EventKind.topic_eq]
  cases e.payload <;> simp [EventPayload.words, Abi.addressWord]

/-- The ways in which a log carries no event. That topics in excess of those of the kind are refused
is assumed of the decoder. -/
inductive Malformed (log : EventLog) : Prop where
  | noBlock (h : log.block = none)
  | noIndex (h : log.index = none)
  | noTopics (h : log.topics = [])
  | foreignTopic (topic : Bytes) (h : log.topics.head? = some topic)
    (hforeign : ∀ k : EventKind, topic ≠ k.topic)
  | fewTopics (k : EventKind) (h : log.topics.head? = some k.topic)
    (hcount : log.topics.length < k.shape.1 + 1)
  | excessTopics (k : EventKind) (h : log.topics.head? = some k.topic)
    (hcount : k.shape.1 + 1 < log.topics.length)
  | shortData (k : EventKind) (h : log.topics.head? = some k.topic)
    (hdata : log.data.length < 32 * k.shape.2)

/-- A log of the kind that its first topic names, with a place and all parameters. -/
structure WellFormed (log : EventLog) (k : EventKind) : Prop where
  block : log.block.isSome
  index : log.index.isSome
  topic : log.topics.head? = some k.topic
  topicCount : log.topics.length = k.shape.1 + 1
  data : 32 * k.shape.2 ≤ log.data.length

/-- A log that is not malformed is well-formed for the kind of its first topic. -/
theorem malformed_iff (log : EventLog) : log.Malformed ↔ ∀ k, ¬ log.WellFormed k := by
  constructor
  · intro hmalformed k hformed
    have hsame {l : EventKind} (h : log.topics.head? = some l.topic) : l = k :=
      EventKind.topic_injective (Option.some.inj (h.symm.trans hformed.topic))
    cases hmalformed with
    | noBlock h => simpa [h] using hformed.block
    | noIndex h => simpa [h] using hformed.index
    | noTopics h => simpa [h] using hformed.topic
    | foreignTopic topic h hforeign =>
      exact hforeign k (Option.some.inj (h.symm.trans hformed.topic))
    | fewTopics l h hcount => exact hcount.ne (hsame h ▸ hformed.topicCount)
    | excessTopics l h hcount => exact hcount.ne' (hsame h ▸ hformed.topicCount)
    | shortData l h hdata => exact absurd hformed.data (hsame h ▸ hdata).not_ge
  · -- Whatever no kind of malformation says of the log is a field of a well-formed one.
    intro hnone
    by_contra hnot
    have hblock : log.block ≠ none := fun h => hnot (.noBlock h)
    have hindex : log.index ≠ none := fun h => hnot (.noIndex h)
    have htopics : log.topics ≠ [] := fun h => hnot (.noTopics h)
    have hhead := List.head?_eq_some_head htopics
    by_cases hkind : ∃ k : EventKind, log.topics.head htopics = k.topic
    · obtain ⟨k, hk⟩ := hkind
      rw [hk] at hhead
      refine hnone k ⟨Option.isSome_iff_ne_none.2 hblock, Option.isSome_iff_ne_none.2 hindex,
        hhead, ?_, ?_⟩
      · obtain hfew | hcount | hexcess := Nat.lt_trichotomy log.topics.length (k.shape.1 + 1)
        · exact absurd (.fewTopics k hhead hfew) hnot
        · exact hcount
        · exact absurd (.excessTopics k hhead hexcess) hnot
      · exact Nat.not_lt.1 fun h => hnot (.shortData k hhead h)
    · exact hnot (.foreignTopic _ hhead (not_exists.1 hkind))

theorem event_ofEvent (e : Event) : (ofEvent e).event = .ok e := by
  have hkind : EventKind.ofTopic? e.payload.kind.topic = some e.payload.kind :=
    EventKind.ofTopic?_eq_some.2 rfl
  simp [event, ofEvent, hkind, payload?_words]
  rfl

theorem event_of_wellFormed {log : EventLog} {k : EventKind} (h : log.WellFormed k) :
    ∃ e, log.event = .ok e ∧ e.payload.kind = k ∧ log.block = some e.block ∧
      log.index = some e.index := by
  obtain ⟨block, hblock⟩ := Option.isSome_iff_exists.1 h.block
  obtain ⟨index, hindex⟩ := Option.isSome_iff_exists.1 h.index
  obtain ⟨indexed, htopics⟩ := List.head?_eq_some_iff.1 h.topic
  have hindexed : indexed.length = k.shape.1 := by simpa [htopics] using h.topicCount
  have hlength : (indexed ++ Abi.firstWords log.data k.shape.2).length
      = k.shape.1 + k.shape.2 := by
    simp [hindexed]
  obtain ⟨p, hp, hkind⟩ := EventPayload.exists_ofWords? hlength
  have hpayload : payload? k indexed log.data = some p := by
    rw [payload?_eq, if_pos ⟨hindexed, h.data⟩, hp]
  have htopic : EventKind.ofTopic? k.topic = some k := EventKind.ofTopic?_eq_some.2 rfl
  refine ⟨⟨block, index, p⟩, ?_, hkind, hblock, hindex⟩
  simp [event, hblock, hindex, htopics, htopic, hpayload]
  rfl

theorem event_cases (log : EventLog) :
    (∃ reason, log.event = .error (Rpc.undecodable reason)) ∨ ∃ k, log.WellFormed k := by
  obtain ⟨block, index, topics, data⟩ := log
  cases block with
  | none => exact .inl ⟨_, rfl⟩
  | some block =>
    cases index with
    | none => exact .inl ⟨_, rfl⟩
    | some index =>
      cases topics with
      | nil => exact .inl ⟨_, rfl⟩
      | cons topic indexed =>
        cases hkind : EventKind.ofTopic? topic with
        | none => exact .inl ⟨_, by simp [event, hkind]; rfl⟩
        | some k =>
          obtain rfl := EventKind.ofTopic?_eq_some.1 hkind
          by_cases hfits : indexed.length = k.shape.1 ∧ 32 * k.shape.2 ≤ data.length
          · exact .inr ⟨k, rfl, rfl, rfl, by simp [hfits.1], hfits.2⟩
          · have hpayload : payload? k indexed data = none := by rw [payload?_eq, if_neg hfits]
            exact .inl ⟨_, by simp [event, hkind, hpayload]; rfl⟩

theorem wellFormed_of_event {log : EventLog} {e : Event} (h : log.event = .ok e) :
    log.WellFormed e.payload.kind ∧ log.block = some e.block ∧ log.index = some e.index := by
  obtain ⟨reason, herror⟩ | ⟨k, hformed⟩ := event_cases log
  · cases h.symm.trans herror
  · obtain ⟨e', hevent, hkind, hplace⟩ := event_of_wellFormed hformed
    obtain rfl := Except.ok.inj (h.symm.trans hevent)
    exact ⟨hkind ▸ hformed, hplace⟩

theorem malformed_iff_undecodable (log : EventLog) :
    log.Malformed ↔ ∃ reason, log.event = .error (Rpc.undecodable reason) := by
  rw [malformed_iff]
  constructor
  · intro hnone
    exact (event_cases log).resolve_right (not_exists.2 hnone)
  · rintro ⟨reason, herror⟩ k hformed
    obtain ⟨e, hevent, -⟩ := event_of_wellFormed hformed
    cases hevent.symm.trans herror

theorem not_malformed_iff (log : EventLog) : ¬ log.Malformed ↔ ∃ e, log.event = .ok e := by
  rw [malformed_iff, not_forall_not]
  constructor
  · rintro ⟨k, hformed⟩
    exact (event_of_wellFormed hformed).imp fun e he => he.1
  · rintro ⟨e, hevent⟩
    exact ⟨_, (wellFormed_of_event hevent).1⟩

end EventLog

/-! ## Batches -/

section Batches

variable {σ ε α β : Type} (f : α → Except ε β) (l : List α)

theorem mapM_eq_ok_iff {f : α → Except ε β} {l : List α} {bs : List β} :
    l.mapM f = .ok bs ↔ List.Forall₂ (fun a b => f a = .ok b) l bs := by
  induction l generalizing bs with
  | nil => cases bs <;> simp [pure, Except.pure]
  | cons a l ih =>
    rw [List.mapM_cons, List.forall₂_cons_left_iff]
    constructor
    · intro h
      cases hfirst : f a with
      | error e => simp [hfirst, bind, Except.bind] at h
      | ok b =>
        cases hrest : l.mapM f with
        | error e => simp [hfirst, hrest, bind, Except.bind] at h
        | ok rest =>
          rw [hfirst, hrest] at h
          exact ⟨b, rest, rfl, ih.1 hrest, (Except.ok.inj h).symm⟩
    · rintro ⟨b, rest, hfirst, hrest, rfl⟩
      rw [hfirst, ih.2 hrest]
      rfl

/-- A batch is read as a whole, or fails as one of its items does. -/
theorem mapM_cases : ((∀ a ∈ l, ∃ b, f a = .ok b) ∧ ∃ bs, l.mapM f = .ok bs) ∨
    ∃ a ∈ l, ∃ e, f a = .error e ∧ l.mapM f = .error e := by
  induction l with
  | nil => exact .inl ⟨by simp, [], rfl⟩
  | cons a l ih =>
    rw [List.mapM_cons]
    cases hfirst : f a with
    | error e => exact .inr ⟨a, by simp, e, hfirst, rfl⟩
    | ok b =>
      obtain ⟨hitems, bs, hbs⟩ | ⟨c, hc, e, herror, hrest⟩ := ih
      · rw [hbs]
        exact .inl ⟨by simpa [hfirst] using hitems, b :: bs, rfl⟩
      · rw [hrest]
        exact .inr ⟨c, by simp [hc], e, herror, rfl⟩

theorem exists_mapM_iff : (∃ bs, l.mapM f = .ok bs) ↔ ∀ a ∈ l, ∃ b, f a = .ok b := by
  obtain ⟨hitems, hbs⟩ | ⟨a, ha, e, herror, hbatch⟩ := mapM_cases f l
  · exact iff_of_true hbs hitems
  · refine iff_of_false ?_ fun h => ?_
    · rintro ⟨bs, hbs⟩
      cases hbs.symm.trans hbatch
    · obtain ⟨b, hb⟩ := h a ha
      cases hb.symm.trans herror

theorem Action.mapM_ofExcept (s : σ) :
    (l.mapM fun a => MonadExcept.ofExcept (f a) : Action σ ε (List β)) s = (l.mapM f, s) := by
  induction l with
  | nil => rfl
  | cons a l ih =>
    rw [List.mapM_cons, List.mapM_cons, bind_eq]
    cases f a with
    | error e => rfl
    | ok b =>
      change (do let bs ← l.mapM _; pure (b :: bs) : Action σ ε (List β)) s = _
      rw [bind_eq, ih]
      cases l.mapM f <;> rfl

end Batches

namespace EventLog

theorem mapM_event_ofEvent (events : List Event) :
    (events.map ofEvent).mapM event = .ok events := by
  rw [mapM_eq_ok_iff, List.forall₂_map_left_iff, List.forall₂_same]
  exact fun e _ => event_ofEvent e

theorem mapM_event_undecodable {logs : List EventLog} (h : ∃ log ∈ logs, log.Malformed) :
    ∃ reason, logs.mapM event = .error (Rpc.undecodable reason) := by
  obtain ⟨bad, hbad, hmalformed⟩ := h
  obtain ⟨hitems, -⟩ | ⟨log, -, error, herror, hbatch⟩ := mapM_cases event logs
  · exact absurd hmalformed ((not_malformed_iff bad).2 (hitems bad hbad))
  · obtain ⟨reason, hreason⟩ | ⟨k, hformed⟩ := event_cases log
    · obtain rfl := Except.error.inj (herror.symm.trans hreason)
      exact ⟨reason, hbatch⟩
    · obtain ⟨e, hevent, -⟩ := event_of_wellFormed hformed
      cases hevent.symm.trans herror

end EventLog

/-! ## Replies of nodes -/

def Contract.optionalQuantity (n : Option UInt64) : Json :=
  (n.map fun n => quantity n.toNat).getD .null

def EventLog.document (log : EventLog) : Json :=
  .object [("blockNumber", Contract.optionalQuantity log.block),
    ("logIndex", Contract.optionalQuantity log.index),
    ("topics", .array (log.topics.map fun t => .string (Bytes.toHex t))),
    ("data", .string (Bytes.toHex log.data))]

namespace Contract

theorem hexNumber?_toDigits (n : Nat) : hexNumber? (Nat.toDigits 16 n) = some n := by
  have hdigit {d : Nat} (hd : d < 16) : Bytes.hexValue d.digitChar = some d := by
    revert d
    decide
  have hvalues : ((Nat.toDigits 16 n).mapM Bytes.hexValue).map
      (List.foldl (fun acc d => 16 * acc + d) 0) = some n := by
    induction n using Nat.strongRecOn with
    | ind n ih =>
      by_cases hn : n < 16
      · simp [Nat.toDigits_of_lt_base hn, hdigit hn]
      · -- The digits before the last one spell the sixteenth of the number.
        have hlast : n % 16 < 16 := Nat.mod_lt n (by decide)
        obtain ⟨ds, hds, hfold⟩ := Option.map_eq_some_iff.1 (ih (n / 16) (by omega))
        rw [Nat.toDigits_of_base_le (by decide) (Nat.not_lt.1 hn), List.mapM_append, hds]
        simp [hdigit hlast, hfold, Nat.div_add_mod]
  rw [hexNumber?, if_neg (by simp), hvalues]

theorem word?_quantity (n : UInt64) : word? (quantity n.toNat) = some n := by
  simp [word?, quantity?, quantity, Json.string?, hexNumber?_toDigits, Word.ofNat?, n.toNat_lt]

theorem bytes?_toHex (bs : Bytes) : bytes? (.string (Bytes.toHex bs)) = some bs := by
  simp [bytes?, Bytes.toHex, Json.string?, Bytes.ofHexDigits_toHexDigits]

theorem topic?_toHex {t : Bytes} (h : t.length = 32) :
    topic? (.string (Bytes.toHex t)) = some t := by
  simp [topic?, bytes?_toHex, h]

theorem mapM_map_of_forall {α β : Type} {f : α → β} {read : β → Option α} {l : List α}
    (h : ∀ a ∈ l, read (f a) = some a) : (l.map f).mapM read = some l := by
  induction l with
  | nil => rfl
  | cons a l ih =>
    rw [List.map_cons, List.mapM_cons, h a (by simp), ih fun b hb => h b (by simp [hb])]
    rfl

theorem optionalWord?_of_field {j : Json} {name : String} {n : Option UInt64}
    (h : j.field? name = some (optionalQuantity n)) : optionalWord? j name = some n := by
  unfold optionalWord?
  rw [h]
  cases n with
  | none => rfl
  | some n =>
    change (word? (quantity n.toNat)).map some = _
    rw [word?_quantity, Option.map_some]

theorem log?_document {log : EventLog} (h : ∀ t ∈ log.topics, t.length = 32) :
    log? log.document = some log := by
  have hblock : optionalWord? log.document "blockNumber" = some log.block :=
    optionalWord?_of_field rfl
  have hindex : optionalWord? log.document "logIndex" = some log.index :=
    optionalWord?_of_field rfl
  have htopics : log.document.field? "topics"
      = some (.array (log.topics.map fun t => .string (Bytes.toHex t))) := rfl
  have hdata : log.document.field? "data" = some (.string (Bytes.toHex log.data)) := rfl
  have hread : (log.topics.map fun t => Json.string (Bytes.toHex t)).mapM topic?
      = some log.topics :=
    mapM_map_of_forall fun t ht => topic?_toHex (h t ht)
  simp [log?, hblock, hindex, htopics, hdata, Json.items?, hread, bytes?_toHex]

def logs? (j : Json) : Option (List EventLog) := j.items?.bind (List.mapM log?)

theorem logs?_emitted (events : List Event) :
    logs? (.array ((events.map EventLog.ofEvent).map EventLog.document))
      = some (events.map EventLog.ofEvent) := by
  apply mapM_map_of_forall
  intro log hlog
  obtain ⟨e, -, rfl⟩ := List.mem_map.1 hlog
  exact log?_document (EventLog.length_topics_ofEvent e)

theorem events_eq {σ : Type} {api : Api σ} {window : BlockWindow} {s s' : σ} {j : Json}
    {logs : List EventLog} (hreply : api (.logs window) s = (.value j, s'))
    (hlogs : logs? j = some logs) :
    events api window s = (logs.mapM EventLog.event, s') := by
  change (Rpc.askFor api logs? (.logs window) >>= _) s = _
  rw [Action.bind_eq, Rpc.askFor_value hreply hlogs]
  exact Action.mapM_ofExcept EventLog.event logs s'

/-- A node that replies with the logs of events is read as having these events. -/
theorem events_emitted {σ : Type} {api : Api σ} {window : BlockWindow} {s s' : σ}
    {emitted : List Event} (hreply : api (.logs window) s
      = (.value (.array ((emitted.map EventLog.ofEvent).map EventLog.document)), s')) :
    events api window s = (.ok emitted, s') := by
  rw [events_eq hreply (logs?_emitted emitted), EventLog.mapM_event_ofEvent]

end Contract

/-- What is emitted is read back, and a log is read as a kind of event only if it is well-formed
for it. A window of logs is read as the events of all of them in their order, or not at all. -/
theorem EventLog.decoding_exact :
    (∀ e, (ofEvent e).event = .ok e) ∧
    (∀ (log : EventLog) (e : Event), log.event = .ok e →
      log.WellFormed e.payload.kind ∧ log.block = some e.block ∧ log.index = some e.index) ∧
    (∀ log : EventLog, log.Malformed ↔ ∃ reason, log.event = .error (Rpc.undecodable reason)) ∧
    (∀ log : EventLog, ¬ log.Malformed ↔ ∃ e, log.event = .ok e) ∧
    ∀ (σ : Type) (api : Contract.Api σ) window s s' j logs,
      api (.logs window) s = (.value j, s') → Contract.logs? j = some logs →
      ((∃ events, Contract.events api window s = (.ok events, s')) ↔
        ∀ log ∈ logs, ∃ e, log.event = .ok e) ∧
      (∀ events, Contract.events api window s = (.ok events, s') ↔
        List.Forall₂ (fun log e => log.event = .ok e) logs events) ∧
      ((∃ log ∈ logs, log.Malformed) →
        ∃ reason, Contract.events api window s = (.error (Rpc.undecodable reason), s')) := by
  refine ⟨event_ofEvent, fun _ _ => wellFormed_of_event, malformed_iff_undecodable,
    not_malformed_iff, ?_⟩
  intro σ api window s s' j logs hreply hlogs
  rw [Contract.events_eq hreply hlogs]
  have hresult (x y : Except Interruption (List Event)) : (x, s') = (y, s') ↔ x = y := by simp
  refine ⟨?_, fun events => (hresult _ _).trans mapM_eq_ok_iff, fun h => ?_⟩
  · exact (exists_congr fun events => hresult _ _).trans (exists_mapM_iff _ _)
  · exact (mapM_event_undecodable h).imp fun reason => (hresult _ _).2

/-- A deposit and the reward of a ledger. -/
def depositAndReward : List Event :=
  [⟨7, 2, .deposited (.ofNat 1) (.ofUInt64 5)⟩,
    ⟨7, 3, .rewards (.ofNat 2) (.ofUInt64 9) (.ofUInt64 100)⟩]

def depositAndRewardApi : Contract.Api Unit := fun _ =>
  pure (.value (.array ((depositAndReward.map EventLog.ofEvent).map EventLog.document)))

theorem EventLog.decoding_exact_depositAndReward :
    Contract.logs? (.array ((depositAndReward.map ofEvent).map document))
        = some (depositAndReward.map ofEvent) ∧
      Contract.events depositAndRewardApi ⟨7, 7⟩ () = (.ok depositAndReward, ()) := by
  obtain ⟨hread, -, -, -, hbatch⟩ := EventLog.decoding_exact
  have hlogs := Contract.logs?_emitted depositAndReward
  have hall : List.Forall₂ (fun (log : EventLog) e => log.event = .ok e)
      (depositAndReward.map ofEvent) depositAndReward := by
    rw [List.forall₂_map_left_iff, List.forall₂_same]
    exact fun e _ => hread e
  exact ⟨hlogs, ((hbatch Unit _ ⟨7, 7⟩ () () _ _ rfl hlogs).2.1 _).2 hall⟩

end StakingIndexer
