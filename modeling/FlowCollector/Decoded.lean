import FlowCollector.DecodeError
import FlowCollector.FlowRecord

/-!
# What decoding gives

Records, the errors of what was dropped, and how many templates were announced. The parts of a datagram each give such
a `Decoded`, and the datagram's is theirs put together: `Decoded.append`, written `++`, is the only way in which one
part's result meets another's, so no part can take back what an earlier one gave. `Decoded.sequence` is how it is done
for a row of parts that hand a memory from one to the next.
-/

set_option autoImplicit false

namespace FlowCollector

/-- The result of decoding a datagram, or a part of one. -/
@[ext] structure Decoded where
  records : List FlowRecord
  errors : List DecodeError
  /-- How many templates were stored, replacements included. A withdrawal, `Announcement.withdraw`, is not counted. -/
  templatesUpserted : Nat
  deriving DecidableEq, Repr

namespace Decoded

def nothing : Decoded := ⟨[], [], 0⟩

/-- One result after another: records and errors in this order, and the counts added. -/
def append (first second : Decoded) : Decoded where
  records := first.records ++ second.records
  errors := first.errors ++ second.errors
  templatesUpserted := first.templatesUpserted + second.templatesUpserted

instance : Append Decoded := ⟨append⟩

def ofErrors (errors : List DecodeError) : Decoded := ⟨[], errors, 0⟩

def ofError (error : DecodeError) : Decoded := ofErrors [error]

/-- The data sets that were dropped because their template is not known, one `DecodeError.unknownTemplate` each. -/
def missingTemplates (decoded : Decoded) : Nat :=
  decoded.errors.countP fun error => error.reason == .unknownTemplate

@[simp] theorem records_append (x y : Decoded) : (x ++ y).records = x.records ++ y.records := rfl

@[simp] theorem errors_append (x y : Decoded) : (x ++ y).errors = x.errors ++ y.errors := rfl

@[simp] theorem templatesUpserted_append (x y : Decoded) :
    (x ++ y).templatesUpserted = x.templatesUpserted + y.templatesUpserted := rfl

@[simp] theorem nothing_append (x : Decoded) : nothing ++ x = x := by
  ext1 <;> simp [nothing]

@[simp] theorem append_nothing (x : Decoded) : x ++ nothing = x := by
  ext1 <;> simp [nothing]

theorem append_assoc (x y z : Decoded) : x ++ y ++ z = x ++ (y ++ z) := by
  ext1 <;> simp [Nat.add_assoc]

theorem records_foldr (parts : List Decoded) (last : Decoded) :
    (parts.foldr (· ++ ·) last).records = parts.flatMap records ++ last.records := by
  induction parts with
  | nil => rfl
  | cons part others ih => simp [ih]

theorem errors_foldr (parts : List Decoded) (last : Decoded) :
    (parts.foldr (· ++ ·) last).errors = parts.flatMap errors ++ last.errors := by
  induction parts with
  | nil => rfl
  | cons part others ih => simp [ih]

theorem templatesUpserted_foldr {parts : List Decoded} {last : Decoded}
    (none_kept : ∀ part ∈ parts, part.templatesUpserted = 0) (none_last : last.templatesUpserted = 0) :
    (parts.foldr (· ++ ·) last).templatesUpserted = 0 := by
  induction parts with
  | nil => exact none_last
  | cons part others ih =>
    have first := none_kept part List.mem_cons_self
    have rest := ih fun other mem => none_kept other (List.mem_cons_of_mem part mem)
    rw [List.foldr_cons, templatesUpserted_append, first, rest]

/-- Decodes parts one after another. Each sees the memory that the one before it left, which for sets of a message is
the `Store`, and for samples of a datagram nothing. -/
def sequence {α σ : Type} (part : α → σ → Decoded × σ) : List α → σ → Decoded × σ
  | [], memory => (nothing, memory)
  | item :: others, memory =>
    let (first, memory) := part item memory
    let (rest, memory) := sequence part others memory
    (first ++ rest, memory)

theorem sequence_append {α σ : Type} (part : α → σ → Decoded × σ) (front back : List α)
    (memory : σ) :
    sequence part (front ++ back) memory
      = ((sequence part front memory).1 ++ (sequence part back (sequence part front memory).2).1,
        (sequence part back (sequence part front memory).2).2) := by
  induction front generalizing memory with
  | nil => simp [sequence]
  | cons item others ih => simp [sequence, ih, append_assoc]

end Decoded

end FlowCollector
