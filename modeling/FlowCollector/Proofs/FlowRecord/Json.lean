import FlowCollector.FlowRecord.Json
import FlowCollector.Proofs.Address
import FlowCollector.Proofs.Json.Value

/-!
# Records written and read back

The text of a record is read back as that record: every member under its own name, every number as far as its width
goes, and every address in its own family. Reading accepts many other texts, so writing does not undo reading; but
what was read can be written and read again, and stays the same.
-/

set_option autoImplicit false

namespace FlowCollector

/-! ## Members -/

namespace Json

theorem members?_record (members : List (String × Json)) (keys : List String) :
    (record members).members? keys = some members := by
  show ((members.map _).mapM _ : Option (List (String × Json))) = _
  induction members with
  | nil => rfl
  | cons member others ih =>
    rw [List.map_cons, List.mapM_cons, ih]
    rfl

/-- The members of a key, where no key stands twice: the one value that `zip` puts with it. -/
theorem filter_zip {keys : List String} {values : List Json} (nodup : keys.Nodup) {key : String} {value : Json}
    {i : Nat} (named : keys[i]? = some key) (there : values[i]? = some value) :
    (keys.zip values).filter (fun member => member.1 == key) = [(key, value)] := by
  induction keys generalizing values i with
  | nil => cases named
  | cons first others ih =>
    obtain ⟨fresh, nodup⟩ := List.nodup_cons.1 nodup
    cases values with
    | nil => cases there
    | cons own values =>
      cases i with
      | zero =>
        obtain rfl := Option.some.inj named
        obtain rfl := Option.some.inj there
        rw [List.zip_cons_cons, List.filter_cons_of_pos (by simp), List.filter_eq_nil_iff.2]
        intro member mem same
        exact fresh (eq_of_beq same ▸ (List.of_mem_zip mem).1)
      | succ i =>
        have other : first ≠ key := by
          rintro rfl
          exact fresh (List.mem_of_getElem? named)
        rw [List.zip_cons_cons, List.filter_cons_of_neg (by simpa using other)]
        exact ih nodup named there

theorem member?_zip {keys : List String} {values : List Json} (nodup : keys.Nodup) {key : String} {value : Json}
    (i : Nat) (named : keys[i]? = some key) (there : values[i]? = some value) :
    member? (keys.zip values) key = some value := by
  rw [member?, filter_zip nodup named there]

theorem optionalMember?_zip {keys : List String} {values : List Json} (nodup : keys.Nodup) {key : String}
    {value : Json} (i : Nat) (named : keys[i]? = some key) (there : values[i]? = some value) :
    optionalMember? (keys.zip values) key = some value := by
  rw [optionalMember?, filter_zip nodup named there]

theorem below?_natural {value limit : Nat} (h : value < limit) : (natural value).below? limit = some value :=
  if_pos h

end Json

/-! ## Records -/

namespace FlowRecord

open Json (Plain)

theorem plain_memberValues (record : FlowRecord) : ∀ value ∈ record.memberValues, value.Plain := by
  have hop : Plain ((record.nextHop.map addressJson).getD .null) := by
    cases record.nextHop with
    | none => exact .null
    | some address => exact .string _
  intro value mem
  simp only [memberValues, List.mem_cons, List.not_mem_nil, or_false] at mem
  rcases mem with rfl | rfl | rfl | rfl | rfl | rfl | rfl | rfl | rfl | rfl | rfl | rfl | rfl | rfl | rfl | rfl | rfl
    | rfl | rfl | rfl | rfl | rfl
  all_goals first | exact hop | exact .natural _ | exact .string _

theorem plain_toJson (record : FlowRecord) : record.toJson.Plain := by
  apply Plain.object
  intro member mem
  obtain ⟨named, there, rfl⟩ := List.mem_map.1 mem
  exact record.plain_memberValues named.2 (List.of_mem_zip there).2

/-! ### Member by member

A member stands at its place in the list, and reading goes on with what it holds. -/

section Members

variable {record : FlowRecord} {key : String} {found : Option FlowRecord}

theorem bind_member (i : Nat) {value : Json} (named : memberNames[i]? = some key)
    (there : record.memberValues[i]? = some value) {f : Json → Option FlowRecord} (next : f value = found) :
    (Json.member? (memberNames.zip record.memberValues) key >>= f) = found := by
  rw [Json.member?_zip (by decide) i named there]
  exact next

theorem bind_number (i : Nat) {value limit : Nat} (named : memberNames[i]? = some key)
    (there : record.memberValues[i]? = some (.natural value)) (fits : value < limit)
    {f : Nat → Option FlowRecord} (next : f value = found) :
    (Json.member? (memberNames.zip record.memberValues) key >>= fun member => member.below? limit >>= f) = found := by
  apply bind_member i named there
  rw [Json.below?_natural fits]
  exact next

theorem bind_text (i : Nat) {content : String} (named : memberNames[i]? = some key)
    (there : record.memberValues[i]? = some (.text content))
    {f : String → Option FlowRecord} (next : f content = found) :
    (Json.member? (memberNames.zip record.memberValues) key >>= fun member => member.text? >>= f) = found :=
  bind_member i named there next

theorem bind_address (i : Nat) {address : IpAddress} (named : memberNames[i]? = some key)
    (there : record.memberValues[i]? = some (addressJson address))
    {f : IpAddress → Option FlowRecord} (next : f address = found) :
    (Json.member? (memberNames.zip record.memberValues) key >>= fun member => address? member >>= f) = found := by
  apply bind_member i named there
  rw [show address? (addressJson address) = some address from IpAddress.ofText?_text address]
  exact next

theorem bind_nextHop {f : Option IpAddress → Option FlowRecord} (next : f record.nextHop = found) :
    (Json.optionalMember? (memberNames.zip record.memberValues) "next_hop" >>= fun member => nextHop? member >>= f)
      = found := by
  rw [Json.optionalMember?_zip (by decide) 11 rfl rfl]
  cases hop : record.nextHop with
  | none =>
    rw [hop] at next
    exact next
  | some address =>
    show ((address? (addressJson address)).map some >>= f) = found
    rw [show address? (addressJson address) = some address from IpAddress.ofText?_text address, ← next, hop]
    rfl

end Members

theorem ofJson?_toJson (record : FlowRecord) : ofJson? record.toJson = some record := by
  unfold ofJson? toJson
  rw [Json.members?_record]
  -- Reading goes through the members in the order in which they are written.
  apply bind_number 0 rfl rfl (UInt64.toNat_lt _)
  apply bind_number 1 rfl rfl (UInt64.toNat_lt _)
  apply bind_address 2 rfl rfl
  apply bind_text 3 rfl rfl
  apply bind_text 4 rfl rfl
  apply bind_address 5 rfl rfl
  apply bind_address 6 rfl rfl
  apply bind_number 7 rfl rfl (UInt32.toNat_lt _)
  apply bind_number 8 rfl rfl (UInt32.toNat_lt _)
  apply bind_number 9 rfl rfl (UInt8.toNat_lt _)
  apply bind_number 10 rfl rfl (UInt8.toNat_lt _)
  apply bind_nextHop
  apply bind_number 12 rfl rfl (UInt16.toNat_lt _)
  apply bind_number 13 rfl rfl (UInt16.toNat_lt _)
  apply bind_number 14 rfl rfl (UInt8.toNat_lt _)
  apply bind_number 15 rfl rfl (UInt8.toNat_lt _)
  apply bind_number 16 rfl rfl (UInt64.toNat_lt _)
  apply bind_number 17 rfl rfl (UInt64.toNat_lt _)
  apply bind_number 18 rfl rfl (UInt32.toNat_lt _)
  apply bind_number 19 rfl rfl (UInt32.toNat_lt _)
  apply bind_number 20 rfl rfl (UInt16.toNat_lt _)
  apply bind_number 21 rfl rfl (UInt32.toNat_lt _)
  simp only [UInt64.ofNat_toNat, UInt32.ofNat_toNat, UInt16.ofNat_toNat, UInt8.ofNat_toNat]
  rfl

/-- The text of a record is read back by `ofJsonText?` as the record, with any blanks behind it, such as the end of a
line. -/
theorem ofJsonText?_append (record : FlowRecord) {rest : String}
    (blank : ∀ c ∈ rest.toList, Json.isBlank c = true) : ofJsonText? (record.jsonText ++ rest) = some record := by
  have value := Json.ofChars?_chars record.plain_toJson blank
  unfold ofJsonText? Json.ofText? jsonText Json.render
  rw [String.toList_append, String.toList_ofList, value]
  exact record.ofJson?_toJson

theorem ofJsonText?_jsonText (record : FlowRecord) : ofJsonText? record.jsonText = some record := by
  have read : ofJsonText? (record.jsonText ++ "") = some record := record.ofJsonText?_append nofun
  rwa [String.append_empty] at read

/-- The text of a record is a part of one line, since `Json` escapes whatever would end it. -/
theorem newline_not_mem_jsonText (record : FlowRecord) : '\n' ∉ record.jsonText.toList := by
  intro inside
  rw [jsonText, Json.render, String.toList_ofList] at inside
  exact absurd (record.plain_toJson.printed _ inside) (by decide)

end FlowRecord

end FlowCollector
