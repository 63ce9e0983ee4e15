/-!
# TOML values

What a settings file says, before anything is made of it. Numbers keep what a reader of settings may
ask: an integer its exact value, of whatever size, and a float only whether a double holds it, since no
setting is one.

A table remembers how it came about, which is not part of its content: it decides who may still add to
it. An inline table is closed where it ends. A table made by dotted keys can be added to by dotted keys
only. A table that a header merely passed through is implicit until a header of its own names it, once.
-/

set_option autoImplicit false

namespace FlowCollector

namespace Toml

/-- How a table came about, which decides who may still add to it (`Walker.mayPass`). -/
inductive Origin where
  | inline
  | dotted
  | implicit
  | explicit
  deriving DecidableEq, Repr, Inhabited

end Toml

/-- A value of a settings file. What sections of settings make of it is said by `Settings.ofToml?`. -/
inductive Toml where
  | string (text : String)
  | integer (value : Int)
  /-- A float, and whether it is in the range of doubles. Its value is not kept. -/
  | float (inRange : Bool)
  | boolean (value : Bool)
  | datetime
  | array (items : List Toml)
  /-- The tables that headers in double brackets added one by one, by their members. -/
  | tables (items : List (List (String × Toml)))
  | table (origin : Toml.Origin) (members : List (String × Toml))
  deriving Repr, Inhabited

namespace Toml

/-- The members of a table, keys differing, in the order in which they were first given. -/
abbrev Members := List (String × Toml)

/-- The value of a key among members, whatever the table they are of. -/
def member? (key : String) : Members → Option Toml
  | [] => none
  | (k, value) :: others => if k = key then some value else member? key others

mutual

/-- True of the values that can be passed over. A number must be in the widest range there is, even where
nobody asks for it: an integer from −2¹²⁷ to 2¹²⁸ − 1, and a float among the doubles. -/
def isReadable : Toml → Bool
  | .string _ => true
  | .integer value => -(2 ^ 127) ≤ value && value < 2 ^ 128
  | .float inRange => inRange
  | .boolean _ => true
  | .datetime => true
  | .array items => itemsReadable items
  | .tables items => tablesReadable items
  | .table _ members => membersReadable members

/-- `isReadable`, of every item. -/
def itemsReadable : List Toml → Bool
  | [] => true
  | item :: others => item.isReadable && itemsReadable others

/-- `isReadable`, of every member of every table. -/
def tablesReadable : List (List (String × Toml)) → Bool
  | [] => true
  | item :: others => membersReadable item && tablesReadable others

/-- `isReadable`, of every member. A section is read only if this is true of what it is not asked for. -/
def membersReadable : List (String × Toml) → Bool
  | [] => true
  | (_, value) :: others => value.isReadable && membersReadable others

end

end Toml

end FlowCollector
