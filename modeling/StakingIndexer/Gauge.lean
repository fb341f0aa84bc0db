import StakingIndexer.Amount

/-!
# Gauges

A publisher keeps the last value of every gauge under its rendered key, and notes what it
forwards to the exporter under its own prefix.
-/

namespace StakingIndexer

/-- A value to be published, with at most one label. -/
structure Gauge where
  name : String
  label : Option (String × String)
  value : Float

namespace Gauge

def plain (name : String) (value : Float) : Gauge := ⟨name, none, value⟩

def amount (name : String) (amount : Amount) : Gauge := plain name amount.toFloat

def labeled (name label labelValue : String) (value : Float) : Gauge :=
  ⟨name, some (label, labelValue), value⟩

/-- The key of a labeled gauge. Label values are not escaped. -/
def labeledKey (name label labelValue : String) : String :=
  name ++ "\x7b" ++ label ++ "=\"" ++ labelValue ++ "\"\x7d"

/-- The key under which a gauge is kept. -/
def key (g : Gauge) : String :=
  match g.label with
  | some (label, labelValue) => labeledKey g.name label labelValue
  | none => g.name

/-- The key under which a gauge is forwarded. -/
def forwardedKey (g : Gauge) : String :=
  match g.label with
  | some (label, labelValue) => g.name ++ "|" ++ label ++ "=" ++ labelValue
  | none => g.name

end Gauge

/-- The last value of every gauge, in the order of their first publication. -/
abbrev GaugeTable := List (String × Float)

namespace GaugeTable

def get? (t : GaugeTable) (key : String) : Option Float := (t.find? (·.1 == key)).map (·.2)

/-- Replace the value under a key, or append it. -/
def set : GaugeTable → String → Float → GaugeTable
  | [], key, value => [(key, value)]
  | e :: rest, key, value =>
    if e.1 == key then (key, value) :: rest else e :: set rest key value

end GaugeTable

/-- The registry of the gauges. `mark` stands before every forwarded name. -/
structure Publisher where
  mark : String
  gauges : GaugeTable
  forwarded : GaugeTable

namespace Publisher

def new (mark : String) : Publisher := ⟨mark, [], []⟩

def set (p : Publisher) (g : Gauge) : Publisher :=
  { p with
    gauges := GaugeTable.set p.gauges g.key g.value
    forwarded := GaugeTable.set p.forwarded (p.mark ++ g.forwardedKey) g.value }

/-- Publish in order, so that the last value of a key stays. -/
def publishAll (p : Publisher) (gauges : List Gauge) : Publisher := gauges.foldl set p

def get? (p : Publisher) (key : String) : Option Float := GaugeTable.get? p.gauges key

end Publisher
end StakingIndexer
