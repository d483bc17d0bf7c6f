import PlanCompiler.Client.Data
import PlanCompiler.Strategy.Basic
import PlanCompiler.Text.Digit
import PlanCompiler.Text.Case

/-!
# The catalog

The strategies, the lists of configurations that clients have stored, and three indices over the
strategies that are rebuilt when they are read after a change. These are the plain changes of the
catalog; which of them an operation makes, and when it is refused, is decided by `Service`.

* `insert`, `remove`, `cleared`: the strategies change, the indices become stale;
* `remove` also drops the strategy from every client's list, and `storeConfigs` keeps only
  configurations of strategies that are there;
* `refreshed`: the indices as a rebuild gives them;
* `freshId`: the first generated id that is not taken.
-/

namespace PlanCompiler

/-- Whether the indices still describe the strategies. -/
inductive Freshness
  | fresh
  | dirty
  deriving DecidableEq, Repr

/-- The name of a freshness. -/
def Freshness.name : Freshness → String
  | .fresh => "fresh"
  | .dirty => "dirty"

/-- The strategies by category, section and subsection; an empty key is not indexed. -/
structure Index where
  byCategory : Entries (List Strategy) := []
  bySection : Entries (List Strategy) := []
  bySubsection : Entries (List Strategy) := []
  deriving DecidableEq, Repr

namespace Index

/-- The strategies under what `label` gives them. -/
def table (label : Strategy → String) (strategies : List Strategy) : Entries (List Strategy) :=
  Entries.group label (strategies.filter fun s => !(label s).isEmpty)

/-- The indices over a list of strategies. -/
def build (strategies : List Strategy) : Index where
  byCategory := table (·.category) strategies
  bySection := table (·.sectionKey.getD "") strategies
  bySubsection := table (·.subsection.getD "") strategies

end Index

/-- The catalog. -/
structure Catalog where
  /-- The strategies by id, in the order in which they were added. -/
  entries : Entries Strategy := []
  /-- The configurations that each client has stored. -/
  clients : Entries (List ClientConfig) := []
  index : Index := {}
  freshness : Freshness := .dirty
  deriving DecidableEq, Repr

namespace Catalog

/-- The strategies in the order in which they were added. -/
def strategies (c : Catalog) : List Strategy :=
  Entries.values c.entries

/-- The strategies that users wrote. -/
def customStrategies (c : Catalog) : List Strategy :=
  c.strategies.filter (·.isCustom)

/-- The ids of the strategies. -/
def ids (c : Catalog) : List String :=
  Entries.keys c.entries

/-- How many strategies there are. -/
def size (c : Catalog) : Nat :=
  c.entries.length

/-- The strategy with the given id. -/
def get? (c : Catalog) (id : String) : Option Strategy :=
  Entries.get? c.entries id

/-- There is a strategy with the given id. -/
def contains (c : Catalog) (id : String) : Bool :=
  Entries.contains c.entries id

/-- Store a strategy under its id. The indices are left as they are. -/
def place (c : Catalog) (s : Strategy) : Catalog :=
  { c with entries := Entries.put c.entries s.id s }

/-- The indices no longer describe the strategies. -/
def stale (c : Catalog) : Catalog :=
  { c with freshness := .dirty }

/-- Store a strategy under its id. -/
def insert (c : Catalog) (s : Strategy) : Catalog :=
  (c.place s).stale

/-- Store several strategies. Nothing becomes stale when there are none. -/
def insertAll (c : Catalog) (strategies : List Strategy) : Catalog :=
  strategies.foldl insert c

/-- The configurations of other strategies. -/
def withoutStrategy (id : String) (configs : List ClientConfig) : List ClientConfig :=
  configs.filter fun config => config.strategyId ≠ id

/-- The clients whose list mentions a strategy. -/
def clientsOf (c : Catalog) (id : String) : List String :=
  (c.clients.filter fun entry => entry.2.any fun config => config.strategyId = id).map (·.1)

/-- Drop a strategy, from the catalog and from every client's list. -/
def remove (c : Catalog) (id : String) : Catalog :=
  { c with
    entries := Entries.erase c.entries id
    clients := Entries.mapValues (withoutStrategy id) c.clients
    freshness := .dirty }

/-- Drop every strategy and every client's list. The indices keep what they held. -/
def cleared (c : Catalog) : Catalog :=
  { c with entries := [], clients := [], freshness := .dirty }

/-- The catalog with indices that describe its strategies. -/
def refreshed (c : Catalog) : Catalog :=
  match c.freshness with
  | .fresh => c
  | .dirty => { c with index := Index.build c.strategies, freshness := .fresh }

/-- The configurations that a client has stored. -/
def configsOf (c : Catalog) (client : String) : List ClientConfig :=
  (Entries.get? c.clients client).getD []

/-- The configurations whose strategy is in the catalog. -/
def known (c : Catalog) (configs : List ClientConfig) : List ClientConfig :=
  configs.filter fun config => c.contains config.strategyId

/-- Store a client's configurations in place of those stored before, without those of strategies
that are not there. -/
def storeConfigs (c : Catalog) (client : String) (configs : List ClientConfig) : Catalog :=
  { c with clients := Entries.put c.clients client (c.known configs) }

/-- Serial numbers repeat from here on. -/
def serialBound : Nat := 0x100000000

/-- The serial number for any integer. -/
def serialOf (i : Int) : Nat :=
  (i % (serialBound : Int)).toNat

/-- A serial number in eight hexadecimal digits. -/
def serialText (serial : Nat) : String :=
  String.ofList (Text.hex 8 (serial % serialBound))

/-- The id made from an origin, a title and a serial number. -/
def generatedId (origin title : String) (serial : Nat) : String :=
  origin ++ "-" ++ String.ofList (Text.slug title.toList) ++ "-" ++ serialText serial

/-- The serial numbers to try from `serial` on: one more than there are strategies, so that one of
the ids made from them is free. -/
def serials (c : Catalog) (serial : Nat) : List Nat :=
  (List.range (c.size + 1)).map (serial + ·)

/-- The first serial number from `serial` on whose id is not taken. -/
def freshSerial (c : Catalog) (origin title : String) (serial : Nat) : Nat :=
  ((c.serials serial).find? fun n => !c.contains (generatedId origin title n)).getD serial

end Catalog

end PlanCompiler
