import Mathlib.Data.List.Basic
import LayeredAllocation.Leak

namespace LayeredAllocation

namespace Text.Numeral
variable {base n : Nat} {c : Char} {cs : List Char}

theorem digitValue?_of_mem_digits (two : 2 ≤ base) (sixteen : base ≤ 16) (member : c ∈ digits base n) :
    ∃ d, digitValue? c = some d := by
  fun_induction digits base n with
  | case1 n last =>
    rw [List.mem_singleton.1 member]
    exact ⟨n, digitValue?_digit (by omega)⟩
  | case2 n more ih =>
    rcases List.mem_append.1 member with front | back
    · exact ih front
    · rw [List.mem_singleton.1 back]
      have small := Nat.mod_lt n (Nat.lt_of_lt_of_le Nat.two_pos two)
      exact ⟨n % base, digitValue?_digit (Nat.lt_of_lt_of_le small sixteen)⟩

theorem toList_decimal (n : Nat) : (decimal n).toList = digits 10 n := String.toList_ofList

theorem toList_hexadecimal (n : Nat) : (hexadecimal n).toList = "0x".toList ++ digits 16 n := by
  unfold hexadecimal
  rw [String.toList_append]
  exact congrArg ("0x".toList ++ ·) String.toList_ofList

theorem not_mem_digits (two : 2 ≤ base) (sixteen : base ≤ 16) (foreign : digitValue? c = none) :
    c ∉ digits base n := by
  intro member
  obtain ⟨d, found⟩ := digitValue?_of_mem_digits two sixteen member
  cases foreign.symm.trans found

def ofDigits? (base : Nat) (cs : List Char) : Option Nat :=
  let n := value base 0 cs
  if digits base n = cs then some n else none

theorem ofDigits?_eq_some_iff (two : 2 ≤ base) (sixteen : base ≤ 16) :
    ofDigits? base cs = some n ↔ cs = digits base n := by
  unfold ofDigits?
  dsimp only
  constructor
  · intro read
    split at read
    · next spelt =>
      cases read
      exact spelt.symm
    · cases read
  · rintro rfl
    rw [value_digits two sixteen, if_pos rfl]

end Text.Numeral

namespace Text
variable {mark : Char} {text front back : List Char}

def cutFirst? (mark : Char) : List Char → Option (List Char × List Char)
  | [] => none
  | c :: rest =>
    if c = mark then some ([], rest)
    else (cutFirst? mark rest).map fun (front, back) => (c :: front, back)

def cutLast? (mark : Char) (text : List Char) : Option (List Char × List Char) :=
  (cutFirst? mark text.reverse).map fun (back, front) => (front.reverse, back.reverse)

theorem cutFirst?_eq_some_iff :
    cutFirst? mark text = some (front, back) ↔ text = front ++ mark :: back ∧ mark ∉ front := by
  induction text generalizing front with
  | nil => simp [cutFirst?]
  | cons c rest ih =>
    unfold cutFirst?
    split
    · next same =>
      subst same
      cases front with
      | nil => simp
      | cons first others => simp +contextual [eq_comm]
    · next other =>
      rw [Option.map_eq_some_iff]
      constructor
      · rintro ⟨⟨before, behind⟩, found, same⟩
        cases same
        obtain ⟨rfl, clear⟩ := ih.1 found
        exact ⟨rfl, fun member => (List.mem_cons.1 member).elim (fun equal => other equal.symm) clear⟩
      · rintro ⟨same, clear⟩
        cases front with
        | nil => exact absurd (List.cons.inj same).1 other
        | cons first others =>
          cases same
          exact ⟨(others, back), ih.2 ⟨rfl, fun member => clear (List.mem_cons_of_mem _ member)⟩, rfl⟩

theorem cutLast?_eq_some_iff :
    cutLast? mark text = some (front, back) ↔ text = front ++ mark :: back ∧ mark ∉ back := by
  have turned : text.reverse = back.reverse ++ mark :: front.reverse ↔ text = front ++ mark :: back := by
    rw [← List.reverse_inj, List.reverse_reverse]
    simp
  unfold cutLast?
  rw [Option.map_eq_some_iff]
  constructor
  · rintro ⟨⟨behind, before⟩, found, same⟩
    cases same
    obtain ⟨whole, clear⟩ := cutFirst?_eq_some_iff.1 found
    refine ⟨?_, fun member => clear (List.mem_reverse.1 member)⟩
    rw [← List.reverse_reverse text, whole]
    simp
  · rintro ⟨whole, clear⟩
    refine ⟨(back.reverse, front.reverse), cutFirst?_eq_some_iff.2 ⟨turned.2 whole, ?_⟩, ?_⟩
    · exact fun member => clear (List.mem_reverse.1 member)
    · simp

end Text

open Text Text.Numeral

-- Reads a place in a program. The file may hold colons, the numbers do not.
def Site.ofText? (text : List Char) : Option Site := do
  let (rest, column) ← cutLast? ':' text
  let (file, line) ← cutLast? ':' rest
  return ⟨String.ofList file, ← ofDigits? 10 line, ← ofDigits? 10 column⟩

theorem Site.toList_text (site : Site) :
    site.text.toList =
      (site.file.toList ++ ':' :: digits 10 site.line) ++ ':' :: digits 10 site.column := by
  have colon : ":".toList = [':'] := rfl
  unfold Site.text
  simp only [String.toList_append, toList_decimal, colon, List.append_assoc, List.cons_append,
    List.nil_append]

theorem Site.ofText?_eq_some_iff {text : List Char} {site : Site} :
    Site.ofText? text = some site ↔ text = site.text.toList := by
  rw [Site.toList_text]
  unfold Site.ofText?
  simp only [bind, pure, Option.bind_eq_some_iff, cutLast?_eq_some_iff, Prod.exists, Option.some.injEq,
    ofDigits?_eq_some_iff (by decide : 2 ≤ 10) (by decide : 10 ≤ 16)]
  constructor
  · rintro ⟨_, _, ⟨rfl, _⟩, file, _, ⟨rfl, _⟩, line, rfl, column, rfl, rfl⟩
    have written : (String.ofList file).toList = file := String.toList_ofList
    rw [written]
  · rintro rfl
    have apart (n : Nat) : ':' ∉ digits 10 n := not_mem_digits (by decide) (by decide) rfl
    refine ⟨_, _, ⟨rfl, apart _⟩, _, _, ⟨rfl, apart _⟩, _, rfl, _, rfl, ?_⟩
    rw [String.ofList_toList]

namespace Leak

def Record.ofLine? (allocator line : String) : Option Record := do
  let rest ← ("LEAK allocator=" ++ allocator ++ " address=0x").toList.isPrefixOf? line.toList
  let (address, rest) ← cutFirst? ' ' rest
  let rest ← "bytes=".toList.isPrefixOf? rest
  let (size, rest) ← cutFirst? ' ' rest
  let rest ← "site=".toList.isPrefixOf? rest
  -- The file may look like any field, but the last one behind it is the sequence.
  let (rest, sequence) ← cutLast? '=' rest
  let site ← " seq".toList.isSuffixOf? rest
  return ⟨← ofDigits? 16 address, ← ofDigits? 10 size, ← Site.ofText? site, ← ofDigits? 10 sequence⟩

theorem Record.toList_line (allocator : String) (record : Record) :
    (record.line allocator).toList =
      ("LEAK allocator=" ++ allocator ++ " address=0x").toList ++
        (digits 16 record.address ++ ' ' :: ("bytes=".toList ++
          (digits 10 record.size ++ ' ' :: ("site=".toList ++
            (record.site.text.toList ++ " seq".toList ++ '=' :: digits 10 record.sequence))))) := by
  have address : " address=0x".toList = " address=".toList ++ "0x".toList := rfl
  have bytes : " bytes=".toList = ' ' :: "bytes=".toList := rfl
  have site : " site=".toList = ' ' :: "site=".toList := rfl
  have seq : " seq=".toList = " seq".toList ++ ['='] := rfl
  unfold Record.line
  simp only [String.toList_append, address, bytes, site, seq]
  rw [toList_hexadecimal]
  simp only [toList_decimal, List.append_assoc, List.cons_append, List.nil_append]

theorem Record.ofLine?_eq_some_iff {allocator line : String} {record : Record} :
    Record.ofLine? allocator line = some record ↔ line = record.line allocator := by
  rw [← String.toList_inj, Record.toList_line]
  unfold Record.ofLine?
  simp only [bind, pure, Option.bind_eq_some_iff, List.isPrefixOf?_eq_some_iff_append_eq,
    List.isSuffixOf?_eq_some_iff_append_eq, cutFirst?_eq_some_iff, cutLast?_eq_some_iff,
    Site.ofText?_eq_some_iff, ofDigits?_eq_some_iff (by decide : 2 ≤ 10) (by decide : 10 ≤ 16),
    ofDigits?_eq_some_iff (by decide : 2 ≤ 16) (Nat.le_refl 16), Prod.exists, Option.some.injEq]
  constructor
  · rintro ⟨_, whole, _, _, ⟨rfl, _⟩, _, rfl, _, _, ⟨rfl, _⟩, _, rfl, _, _, ⟨rfl, _⟩, _, rfl,
      address, rfl, size, rfl, site, rfl, sequence, rfl, rfl⟩
    exact whole.symm
  · intro whole
    refine ⟨_, whole.symm, _, _, ⟨rfl, ?_⟩, _, rfl, _, _, ⟨rfl, ?_⟩, _, rfl, _, _, ⟨rfl, ?_⟩, _, rfl,
      _, rfl, _, rfl, _, rfl, _, rfl, rfl⟩
    · exact not_mem_digits (by decide) (by decide) rfl
    · exact not_mem_digits (by decide) (by decide) rfl
    · exact not_mem_digits (by decide) (by decide) rfl

-- A program that knows the name of the tracker gets every record back from its line, whatever is in
-- the name of the file, and no other text passes for a line. So neither two records nor two reports
-- are ever written in the same way.
theorem lines_lose_nothing (allocator : String) :
    (∀ line record, Record.ofLine? allocator line = some record ↔ line = record.line allocator) ∧
    (∀ a b : Record, a.line allocator = b.line allocator ↔ a = b) ∧
    ∀ leaks others : List Record,
      Report.lines ⟨allocator, leaks⟩ = Report.lines ⟨allocator, others⟩ ↔ leaks = others := by
  have injective (a b : Record) (same : a.line allocator = b.line allocator) : a = b := by
    have first := Record.ofLine?_eq_some_iff.2 (Eq.refl (a.line allocator))
    have second := Record.ofLine?_eq_some_iff.2 same
    exact Option.some.inj (first.symm.trans second)
  refine ⟨fun line record => Record.ofLine?_eq_some_iff, ?_, ?_⟩
  · intro a b
    exact ⟨injective a b, congrArg _⟩
  · intro leaks others
    exact List.map_inj_right injective

-- The file ends in what looks like a place and a sequence.
example :
    Record.ofLine? "a seq=" "LEAK allocator=a seq= address=0x40 bytes=24 site=x:9:1 seq=7:2:30 seq=5" =
      some ⟨64, 24, ⟨"x:9:1 seq=7", 2, 30⟩, 5⟩ := by
  decide +kernel

end Leak

end LayeredAllocation
