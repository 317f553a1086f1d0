import Mathlib.Data.List.TakeWhile
import Mathlib.Data.Nat.Digits.Defs
import SocksTunnel.Failure
import SocksTunnel.Proofs.HostPort
import SocksTunnel.Proofs.Text

/-!
The grammar of addresses, and the parser of addresses as its decision procedure.

An address is a host, a colon and the digits of a port. The host stands in brackets and holds no
closing one, or it holds no colon and the address does not begin with a bracket.

* `readDigitRun_eq_ok_iff` — a run of digits is read just if it is a numeral.
* `HostPort.cut_of_spelling`, `HostPort.spelling_of_cut` — an address is taken apart just as it is
  spelt.
* `HostPort.parse_follows_grammar` — a text is parsed just if it is an address, which it is in one
  way only; every other text is refused.
-/

namespace SocksTunnel

namespace Text

/-! ### Numerals -/

/-- A numeral of a number: decimal digits of any script, the first one counting most, and no more
of them than the limit allows. -/
structure Numeral (digits : List Char) (n : Nat) : Prop where
  short : digits.length ≤ 4300
  writes : ∃ values : List Nat, digits.map decimalDigit? = values.map some ∧
    Nat.ofDigits 10 values.reverse = n

theorem decimalValue_of_values {digits : List Char} {values : List Nat}
    (worth : digits.map decimalDigit? = values.map some) :
    decimalValue digits = Nat.ofDigits 10 values.reverse := by
  have step (start : Nat) :
      digits.foldl (fun n c => 10 * n + (decimalDigit? c).getD 0) start =
        Nat.ofDigits 10 values.reverse + 10 ^ values.length * start := by
    induction digits generalizing start values with
    | nil =>
        obtain rfl : values = [] := by simpa using worth.symm
        simp
    | cons c digits ih =>
        rcases values with _ | ⟨d, values⟩
        · simp at worth
        · obtain ⟨head, tail⟩ := List.cons.inj worth
          rw [List.foldl_cons, ih tail, head, List.reverse_cons, Nat.ofDigits_append,
            Nat.ofDigits_singleton, List.length_reverse, List.length_cons, Option.getD_some]
          ring
  simpa [decimalValue] using step 0

/-- Digits have values just if each of them has a place value. -/
theorem exists_values_iff {digits : List Char} :
    (∃ values : List Nat, digits.map decimalDigit? = values.map some) ↔
      ∀ c ∈ digits, (decimalDigit? c).isSome = true := by
  constructor
  · rintro ⟨values, worth⟩ c member
    have place : decimalDigit? c ∈ values.map some := worth ▸ List.mem_map_of_mem member
    obtain ⟨d, -, same⟩ := List.mem_map.mp place
    rw [← same]
    rfl
  · intro decimal
    refine ⟨digits.map fun c => (decimalDigit? c).getD 0, ?_⟩
    rw [List.map_map]
    apply List.map_congr_left
    intro c member
    obtain ⟨d, worth⟩ := Option.isSome_iff_exists.mp (decimal c member)
    simp [worth]

theorem readDigitRun_of_decimal {digits : List Char}
    (decimal : ∀ c ∈ digits, (decimalDigit? c).isSome = true) :
    readDigitRun digits =
      if 4300 < digits.length then .error (.tooLong digits.length)
      else .ok (decimalValue digits) := by
  rw [readDigitRun, List.takeWhile_eq_self_iff.mpr decimal, if_neg (Nat.lt_irrefl _)]
  rfl

/-- A digit without a place value keeps a run from being read. -/
theorem readDigitRun_of_ornamental {digits : List Char} {c : Char} (member : c ∈ digits)
    (ornamental : decimalDigit? c = none) : ∃ e, readDigitRun digits = .error e := by
  have prefix' := List.takeWhile_prefix (fun c => (decimalDigit? c).isSome) (l := digits)
  have stops : digits.takeWhile (fun c => (decimalDigit? c).isSome) ≠ digits := by
    intro whole
    have decimal := List.takeWhile_eq_self_iff.mp whole c member
    rw [ornamental] at decimal
    cases decimal
  have shorter := lt_of_le_of_ne prefix'.length_le (mt prefix'.eq_of_length stops)
  rw [readDigitRun, if_pos shorter]
  split
  · exact ⟨_, rfl⟩
  · exact ⟨_, rfl⟩

/-- A run of digits is read just if it is a numeral. -/
theorem readDigitRun_eq_ok_iff {digits : List Char} {n : Nat} :
    readDigitRun digits = .ok n ↔ Numeral digits n := by
  by_cases decimal : ∀ c ∈ digits, (decimalDigit? c).isSome = true
  · obtain ⟨values, worth⟩ := exists_values_iff.mpr decimal
    rw [readDigitRun_of_decimal decimal, decimalValue_of_values worth]
    constructor
    · intro read
      split at read
      · cases read
      · rename_i short
        exact ⟨Nat.le_of_not_lt short, values, worth, Except.ok.inj read⟩
    · rintro ⟨short, values', worth', value⟩
      obtain rfl : values' = values :=
        (List.map_inj_right fun _ _ => Option.some.inj).mp (worth'.symm.trans worth)
      rw [if_neg (Nat.not_lt.mpr short), value]
  · constructor
    · intro read
      push Not at decimal
      obtain ⟨c, member, ornamental⟩ := decimal
      obtain ⟨e, failed⟩ := readDigitRun_of_ornamental member (by simpa using ornamental)
      rw [failed] at read
      cases read
    · rintro ⟨-, values, worth, -⟩
      exact absurd (exists_values_iff.mp ⟨values, worth⟩) decimal

theorem Numeral.unique {digits : List Char} {n n' : Nat} (numeral : Numeral digits n)
    (numeral' : Numeral digits n') : n = n' := by
  have same := (readDigitRun_eq_ok_iff.mpr numeral).symm.trans (readDigitRun_eq_ok_iff.mpr numeral')
  exact Except.ok.inj same

/-- A digit that has a place value is a digit. -/
theorem isDigit_of_decimal {c : Char} (decimal : (decimalDigit? c).isSome = true) :
    isDigit c = true := by
  rw [isDigit, decimal, Bool.true_or]

theorem isDigit_colon : isDigit ':' = false := by
  unfold isDigit decimalDigit? zeroCodes ornamentalDigits CodeRanges.read words
  rw [String.toList_ofList, String.toList_ofList]
  decide +kernel

end Text

namespace HostPort

open Text

/-! ### The grammar -/

/-- How the host and the port stand in an address. -/
inductive Spelling (text host port : List Char) : Prop
  | bracketed (inside : ']' ∉ host) (spelt : text = '[' :: host ++ ']' :: ':' :: port)
  | bare (whole : ':' ∉ host) (unbracketed : text.head? ≠ some '[')
      (spelt : text = host ++ ':' :: port)

/-- A text is an address of a host and a port, whose digits are shown. -/
structure Spells (text host digits : List Char) (port : Nat) : Prop where
  named : host ≠ []
  numbered : digits ≠ []
  numeral : Numeral digits port
  small : port ≤ 65535
  spelling : Spelling text host digits

theorem splitLast?_append {sep : Char} (front : List Char) {back : List Char} (last : sep ∉ back) :
    splitLast? sep (front ++ sep :: back) = some (front, back) := by
  have others := bne_of_notMem (mt List.mem_reverse.mp last)
  have reversed : (front ++ sep :: back).reverse = back.reverse ++ sep :: front.reverse := by simp
  rw [splitLast?, reversed, List.dropWhile_append_of_pos others,
    List.takeWhile_append_of_pos others]
  simp

/-- A text that is cut at the last separator is what stands on both sides of it. -/
theorem eq_of_splitLast? {sep : Char} {text front back : List Char}
    (split : splitLast? sep text = some (front, back)) :
    text = front ++ sep :: back ∧ sep ∉ back := by
  unfold splitLast? at split
  cases rest : text.reverse.dropWhile (· != sep) with
  | nil => simp [rest] at split
  | cons c before =>
      have whole := List.takeWhile_append_dropWhile (p := (· != sep)) (l := text.reverse)
      have here := List.head?_dropWhile_not (· != sep) text.reverse
      rw [rest] at split whole here
      simp only [Option.some.injEq, Prod.mk.injEq] at split
      obtain ⟨rfl, rfl⟩ := split
      obtain rfl : c = sep := by simpa using here
      constructor
      · have text' := congrArg List.reverse whole
        simpa using text'.symm
      · exact mt List.mem_reverse.mp notMem_takeWhile_bne

/-- An address is taken apart as it is spelt. -/
theorem cut_of_spelling {text host port : List Char} (spelling : Spelling text host port)
    (plain : ':' ∉ port) : cut text = .ok (host, port) := by
  rcases spelling with ⟨inside, rfl⟩ | ⟨whole, unbracketed, rfl⟩
  · have others := bne_of_notMem inside
    simp [cut, List.dropWhile_append_of_pos others, List.takeWhile_append_of_pos others]
  · rw [cut, splitLast?_append host plain]
    · simp [whole]
    · rintro rest bracket
      rw [bracket] at unbracketed
      exact unbracketed rfl

/-- What is taken apart was spelt so. -/
theorem spelling_of_cut {text host port : List Char} (split : cut text = .ok (host, port)) :
    Spelling text host port := by
  unfold cut at split
  split at split
  · rename_i inside
    split at split
    · rename_i rest closed
      obtain ⟨rfl, rfl⟩ := Prod.mk.inj (Except.ok.inj split)
      have whole := List.takeWhile_append_dropWhile (p := (· != ']')) (l := inside)
      rw [closed] at whole
      refine .bracketed notMem_takeWhile_bne ?_
      rw [List.cons_append, whole]
    · cases split
  · rename_i unbracketed
    split at split
    · cases split
    · rename_i front back found
      split at split
      · cases split
      · rename_i single
        obtain ⟨rfl, rfl⟩ := Prod.mk.inj (Except.ok.inj split)
        refine .bare (by simpa using single) ?_ (eq_of_splitLast? found).1
        intro bracket
        obtain ⟨rest, rfl⟩ := List.head?_eq_some_iff.mp bracket
        exact unbracketed rest rfl

/-! ### The parser -/

theorem maxPort_eq : maxPort = 65535 := rfl

/-- The port of an address is read just if its digits are a numeral of a small number. -/
theorem readPort_eq_ok_iff {text digits : List Char} {port : UInt16} :
    readPort text digits = .ok port ↔
      digits ≠ [] ∧ Numeral digits port.toNat := by
  have bound := port.toNat_lt
  constructor
  · intro read
    unfold readPort at read
    split at read
    · cases read
    · rename_i shape
      split at read
      · cases read
      · rename_i n value
        split at read
        · cases read
        · rename_i small
          obtain rfl := Except.ok.inj read
          rw [maxPort_eq] at small
          refine ⟨by simpa using (not_or.mp (mt Bool.or_eq_true_iff.mpr shape)).1, ?_⟩
          rw [UInt16.toNat_ofNat_of_lt' (Nat.lt_succ_of_le (Nat.le_of_not_lt small))]
          exact readDigitRun_eq_ok_iff.mp value
  · rintro ⟨nonempty, numeral⟩
    have value := readDigitRun_eq_ok_iff.mpr numeral
    obtain ⟨-, values, worth, -⟩ := numeral
    have digits' : digits.all isDigit = true := by
      rw [List.all_eq_true]
      intro c member
      exact isDigit_of_decimal (exists_values_iff.mp ⟨values, worth⟩ c member)
    have small : ¬ maxPort < port.toNat := by
      rw [maxPort_eq]
      omega
    simp [readPort, nonempty, digits', value, small]

/-- An address is parsed in three steps: it is taken apart, the host is looked at, and the port is
read. -/
theorem parse_eq (s : String) :
    parse s = (cut (trim s.toList)).bind fun (host, port) =>
      if host = [] then .error (.missingHost (trim s.toList))
      else (readPort (trim s.toList) port).map fun p => ⟨String.ofList host, p⟩ := by
  simp only [parse, parseChars, bind, List.isEmpty_iff]
  cases cut (trim s.toList) with
  | error e => rfl
  | ok parts =>
      obtain ⟨host, port⟩ := parts
      simp only [Except.bind]
      split
      · rfl
      · cases readPort (trim s.toList) port <;> rfl

theorem parse_eq_ok_iff {s : String} {hp : HostPort} :
    parse s = .ok hp ↔ hp.host.toList ≠ [] ∧ ∃ port,
      cut (trim s.toList) = .ok (hp.host.toList, port) ∧
        readPort (trim s.toList) port = .ok hp.port := by
  rw [parse_eq]
  constructor
  · intro parsed
    cases split : cut (trim s.toList) with
    | error e => simp [split, Except.bind] at parsed
    | ok parts =>
        obtain ⟨host, port⟩ := parts
        simp only [split, Except.bind] at parsed
        split at parsed
        · cases parsed
        · rename_i named
          cases read : readPort (trim s.toList) port with
          | error e => simp [read, Except.map] at parsed
          | ok p =>
              simp only [read, Except.map, Except.ok.injEq] at parsed
              subst parsed
              rw [String.toList_ofList]
              exact ⟨named, port, rfl, read⟩
  · rintro ⟨named, port, split, read⟩
    simp [split, named, read, Except.bind, Except.map]

/-- A port that is read has no colon among its digits. -/
theorem colon_notMem_of_digits {digits : List Char} (all : ∀ c ∈ digits, isDigit c = true) :
    ':' ∉ digits := by
  intro member
  have digit := all ':' member
  rw [isDigit_colon] at digit
  cases digit

theorem Spells.colon_notMem {text host digits : List Char} {port : Nat}
    (spells : Spells text host digits port) : ':' ∉ digits := by
  obtain ⟨-, values, worth, -⟩ := spells.numeral
  apply colon_notMem_of_digits
  intro c member
  exact isDigit_of_decimal (exists_values_iff.mp ⟨values, worth⟩ c member)

/-- A text is an address in one way only. -/
theorem Spells.unique {text host digits host' digits' : List Char} {port port' : Nat}
    (spells : Spells text host digits port) (spells' : Spells text host' digits' port') :
    host = host' ∧ digits = digits' ∧ port = port' := by
  have split := cut_of_spelling spells.spelling spells.colon_notMem
  rw [cut_of_spelling spells'.spelling spells'.colon_notMem] at split
  obtain ⟨rfl, rfl⟩ := Prod.mk.inj (Except.ok.inj split)
  exact ⟨rfl, rfl, spells.numeral.unique spells'.numeral⟩

/-- An address is parsed to what it spells. -/
theorem parse_eq_ok_iff_spells {s : String} {hp : HostPort} :
    parse s = .ok hp ↔ ∃ digits, Spells (trim s.toList) hp.host.toList digits hp.port.toNat := by
  rw [parse_eq_ok_iff]
  constructor
  · rintro ⟨named, digits, split, read⟩
    obtain ⟨numbered, numeral⟩ := readPort_eq_ok_iff.mp read
    have small := Nat.le_of_lt_succ hp.port.toNat_lt
    exact ⟨digits, named, numbered, numeral, small, spelling_of_cut split⟩
  · rintro ⟨digits, spells⟩
    exact ⟨spells.named, digits, cut_of_spelling spells.spelling spells.colon_notMem,
      readPort_eq_ok_iff.mpr ⟨spells.numbered, spells.numeral⟩⟩

/-- A text without the blanks around it is parsed to a host and a port just if it is an address of
these. It is an address of one host and one port only, with the digits in one place. A text that is
no address is refused as a bad value. -/
theorem parse_follows_grammar (s : String) :
    (∀ (host : String) (port : Nat),
      (∃ hp, parse s = .ok hp ∧ hp.host = host ∧ hp.port.toNat = port) ↔
        ∃ digits, Spells (trim s.toList) host.toList digits port) ∧
    (∀ {host digits port host' digits' port'}, Spells (trim s.toList) host digits port →
      Spells (trim s.toList) host' digits' port' →
        host = host' ∧ digits = digits' ∧ port = port') ∧
    ((¬ ∃ host digits port, Spells (trim s.toList) host digits port) →
      ∃ e, parse s = .error e ∧ (Failure.address e).isBadValue = true) := by
  refine ⟨?_, Spells.unique, ?_⟩
  · intro host port
    constructor
    · rintro ⟨hp, parsed, rfl, rfl⟩
      exact parse_eq_ok_iff_spells.mp parsed
    · rintro ⟨digits, spells⟩
      have fits : (UInt16.ofNat port).toNat = port :=
        UInt16.toNat_ofNat_of_lt' (Nat.lt_succ_of_le spells.small)
      refine ⟨⟨host, UInt16.ofNat port⟩, ?_, rfl, fits⟩
      apply parse_eq_ok_iff_spells.mpr
      exact ⟨digits, fits.symm ▸ spells⟩
  · intro ungrammatical
    cases parsed : parse s with
    | error e => exact ⟨e, rfl, rfl⟩
    | ok hp =>
        obtain ⟨digits, spells⟩ := parse_eq_ok_iff_spells.mp parsed
        exact absurd ⟨_, digits, _, spells⟩ ungrammatical

/-- An IPv6 host with a port in Arabic digits, and blanks around them. -/
theorem parse_follows_grammar_arabic :
    ∃ hp, parse " [::1]:٠٤٤٣\n" = .ok hp ∧ hp.host = "::1" ∧ hp.port.toNat = 443 := by
  have trimmed : trim " [::1]:٠٤٤٣\n".toList = "[::1]:٠٤٤٣".toList := by decide +kernel
  have worth : ['٠', '٤', '٤', '٣'].map decimalDigit? = [0, 4, 4, 3].map some := by
    unfold decimalDigit? zeroCodes words
    rw [String.toList_ofList]
    decide +kernel
  obtain ⟨parses, -⟩ := parse_follows_grammar " [::1]:٠٤٤٣\n"
  apply (parses "::1" 443).mpr
  have numeral : Numeral ['٠', '٤', '٤', '٣'] 443 := ⟨by decide, _, worth, by decide⟩
  refine ⟨['٠', '٤', '٤', '٣'], by decide, by decide, numeral, by decide, ?_⟩
  rw [trimmed]
  exact .bracketed (by decide) rfl

end HostPort

end SocksTunnel
