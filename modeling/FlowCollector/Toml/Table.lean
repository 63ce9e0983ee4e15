import FlowCollector.Toml

/-!
# Adding to tables

Keys with dots walk through tables and make those that are missing. Whether a table may be walked through
depends on how it came about and on who walks: a header passes through every table but an inline one, and
a dotted key through no table that a header named. Both pass through an array of tables into its last.

No key is ever given a second value, so adding can fail and never replaces.
-/

set_option autoImplicit false

namespace FlowCollector.Toml

/-- Who walks through tables: a header, or a key with dots in front of its value. -/
inductive Walker where
  | header
  | dottedKey
  deriving DecidableEq, Repr

namespace Members

/-- Gives a key a value, in the place of the one it had, or at the end. -/
def set (key : String) (value : Toml) : Members → Members
  | [] => [(key, value)]
  | (k, v) :: others => if k = key then (key, value) :: others else (k, v) :: set key value others

def erase (key : String) (members : Members) : Members := members.filter (·.1 != key)

end Members

/-- How a table comes about that is missing on the way of a `Walker`. -/
def Walker.origin : Walker → Origin
  | .header => .implicit
  | .dottedKey => .dotted

/-- True of the tables that a `Walker` may walk through, by their `Origin`. -/
def Walker.mayPass : Walker → Origin → Bool
  | .header, origin => origin != .inline
  | .dottedKey, origin => origin != .inline && origin != .explicit

/-- Changes the last of several values, if `change` can. Of none there is no last. -/
def changeLast? {α : Type} (change : α → Option α) : List α → Option (List α)
  | [] => none
  | [last] => (change last).map ([·])
  | first :: second :: others => (changeLast? change (second :: others)).map (first :: ·)

/-- Walks along a path and changes the table at its end, which is told how it came about. What is missing is made by
`Walker.origin`, and what may not be passed ends it. -/
def changeAt? (walker : Walker) (change : Origin → Members → Option Members) :
    (path : List String) → Origin → Members → Option Members
  | [], origin, members => change origin members
  | key :: path, _, members =>
    match member? key members with
    | none =>
      (changeAt? walker change path walker.origin []).map fun below =>
        Members.set key (.table walker.origin below) members
    | some (.table origin below) =>
      if walker.mayPass origin then
        (changeAt? walker change path origin below).map fun below =>
          Members.set key (.table origin below) members
      else none
    | some (.tables items) =>
      (changeLast? (changeAt? walker change path .explicit) items).map fun items =>
        Members.set key (.tables items) members
    | some _ => none

/-- A path through tables, and the key at its end, so that there is one key at least. -/
structure KeyPath where
  parents : List String
  key : String
  deriving Repr

/-- Adds a value under a path of dotted keys by `changeAt?`. A table that was not made by dotted keys takes no value
from a longer path, and one that was takes none from a single key. -/
def addMember? (members : Members) (path : KeyPath) (value : Toml) : Option Members :=
  changeAt? .dottedKey
    (fun origin members =>
      if (origin == .dotted) == path.parents.isEmpty then none
      else if (member? path.key members).isSome then none
      else some (members ++ [(path.key, value)]))
    path.parents .explicit members

/-- Adds values under their paths by `addMember?`, one after another. -/
def addMembers? (members : Members) (entries : List (KeyPath × Toml)) : Option Members :=
  entries.foldlM (fun members (path, value) => addMember? members path value) members

/-- Adds the table of a header, with the entries below it. One that is there must be implicit, and keeps its
members. -/
def addTable? (members : Members) (path : KeyPath) (entries : List (KeyPath × Toml)) :
    Option Members :=
  changeAt? .header
    (fun _ members => do
      let before ← match member? path.key members with
        | none => some []
        | some (.table .implicit before) => some before
        | some _ => none
      return Members.set path.key (.table .explicit (← addMembers? before entries)) members)
    path.parents .explicit members

/-- Adds one more table to the array of a header in double brackets, with the entries below it. -/
def addTableItem? (members : Members) (path : KeyPath) (entries : List (KeyPath × Toml)) :
    Option Members :=
  changeAt? .header
    (fun _ members => do
      let before ← match member? path.key members with
        | none => some []
        | some (.tables before) => some before
        | some _ => none
      return Members.set path.key (.tables (before ++ [← addMembers? [] entries])) members)
    path.parents .explicit members

end FlowCollector.Toml
