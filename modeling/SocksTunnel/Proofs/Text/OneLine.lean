import SocksTunnel.Proofs.Ip.Spelling
import SocksTunnel.Text.Quoted
import SocksTunnel.Text.Utf8

/-!
Texts that stay on one line.

* `oneLine_append`, `oneLine_decimal`, `oneLine_hexByte` — they are put together of such texts, and
  numbers are such texts.
* `oneLine_quote` — every text is one in its quoted form.
* `Ipv4.oneLine_text`, `Ipv6.oneLine_dottedText` — so are the texts of addresses.
* `mem_readUtf8_iff` — a text of bytes has the line ends that its bytes have.
-/

namespace SocksTunnel

namespace Text

/-- The characters that end a line. -/
def EndsLine (c : Char) : Prop := c = '\n' ∨ c = '\r'

instance (c : Char) : Decidable (EndsLine c) :=
  inferInstanceAs (Decidable (c = '\n' ∨ c = '\r'))

/-- A text that stays on one line. -/
def OneLine (s : String) : Prop := ∀ c ∈ s.toList, ¬ EndsLine c

instance (s : String) : Decidable (OneLine s) :=
  List.decidableBAll (fun c => ¬ EndsLine c) s.toList

@[simp] theorem oneLine_append {s t : String} : OneLine (s ++ t) ↔ OneLine s ∧ OneLine t := by
  rw [OneLine, String.toList_append, List.forall_mem_append]
  exact Iff.rfl

@[simp] theorem oneLine_ofList {cs : List Char} :
    OneLine (String.ofList cs) ↔ ∀ c ∈ cs, ¬ EndsLine c := by
  rw [OneLine, String.toList_ofList]

theorem not_endsLine_of_mem {cs : List Char} (feed : '\n' ∉ cs) (back : '\r' ∉ cs) :
    ∀ c ∈ cs, ¬ EndsLine c := by
  rintro c member (rfl | rfl)
  · exact feed member
  · exact back member

/-! ### Numbers -/

@[simp] theorem oneLine_decimal (n : Nat) : OneLine (decimal n) :=
  oneLine_ofList.mpr
    (not_endsLine_of_mem (notMem_decimalDigits (by decide) n) (notMem_decimalDigits (by decide) n))

theorem not_endsLine_digitChar {d : Nat} (small : d < 16) : ¬ EndsLine (digitChar d) := by
  have all : ∀ d : Fin 16, ¬ EndsLine (digitChar d) := by decide
  exact all ⟨d, small⟩

theorem not_endsLine_hexDigits (width n : Nat) : ∀ c ∈ hexDigits width n, ¬ EndsLine c := by
  induction width generalizing n with
  | zero => simp [hexDigits]
  | succ width ih =>
      rw [hexDigits, List.forall_mem_append, List.forall_mem_singleton]
      exact ⟨ih (n / 16), not_endsLine_digitChar (Nat.mod_lt n (by decide))⟩

@[simp] theorem oneLine_hexByte (b : UInt8) : OneLine (hexByte b) :=
  oneLine_ofList.mpr (not_endsLine_hexDigits 2 b.toNat)

@[simp] theorem oneLine_signedDecimal (i : Int) : OneLine (signedDecimal i) := by
  unfold signedDecimal
  split
  · exact oneLine_append.mpr ⟨by decide, oneLine_decimal _⟩
  · exact oneLine_decimal _

@[simp] theorem oneLine_zeroPadded (width n : Nat) : OneLine (zeroPadded width n) := by
  rw [zeroPadded, oneLine_ofList, List.forall_mem_append]
  constructor
  · intro c member
    rw [List.eq_of_mem_replicate member]
    decide
  · exact oneLine_ofList.mp (oneLine_decimal n)

@[simp] theorem oneLine_padRight {width : Nat} {s : String} :
    OneLine (padRight width s) ↔ OneLine s := by
  have blanks : OneLine (String.ofList (List.replicate (width - s.length) ' ')) := by
    rw [oneLine_ofList]
    intro c member
    rw [List.eq_of_mem_replicate member]
    decide
  rw [padRight, oneLine_append]
  exact and_iff_left blanks

/-! ### Quoted text -/

theorem not_endsLine_quoteFor (cs : List Char) : ¬ EndsLine (quoteFor cs) := by
  unfold quoteFor
  split <;> decide

/-- Line ends have escapes of their own, and no other escape has one in it. -/
theorem not_endsLine_quotedChar {quote : Char} (fine : ¬ EndsLine quote) (c : Char) :
    ∀ d ∈ quotedChar quote c, ¬ EndsLine d := by
  have escape {kind : Char} {digits : List Char} (letter : ¬ EndsLine kind)
      (number : ∀ d ∈ digits, ¬ EndsLine d) : ∀ d ∈ '\\' :: kind :: digits, ¬ EndsLine d := by
    rw [List.forall_mem_cons, List.forall_mem_cons]
    exact ⟨by decide, letter, number⟩
  have empty : ∀ d ∈ ([] : List Char), ¬ EndsLine d := List.forall_mem_nil _
  have hex (width : Nat) : ∀ d ∈ hexDigits width c.toNat, ¬ EndsLine d :=
    not_endsLine_hexDigits width c.toNat
  unfold quotedChar
  split
  case isTrue special =>
    refine escape ?_ empty
    rcases special with rfl | rfl
    · exact fine
    · decide
  case isFalse =>
    split
    case isTrue => exact escape (by decide) empty
    case isFalse =>
      split
      case isTrue => exact escape (by decide) empty
      case isFalse feed =>
        split
        case isTrue => exact escape (by decide) empty
        case isFalse back =>
          split
          case isTrue => exact escape (by decide) (hex 2)
          case isFalse =>
            split
            case isTrue =>
              rw [List.forall_mem_singleton]
              exact fun ends => ends.elim feed back
            case isFalse =>
              split
              case isTrue => exact escape (by decide) (hex 2)
              case isFalse =>
                split
                case isTrue => exact escape (by decide) (hex 4)
                case isFalse => exact escape (by decide) (hex 8)

/-- Every text stays on one line in its quoted form. -/
@[simp] theorem oneLine_quote (s : String) : OneLine (quote s) := by
  have around := not_endsLine_quoteFor s.toList
  rw [quote, oneLine_ofList, quoted]
  rw [List.forall_mem_append, List.forall_mem_cons, List.forall_mem_singleton]
  refine ⟨⟨around, ?_⟩, around⟩
  intro c member
  obtain ⟨d, -, inside⟩ := List.mem_flatMap.mp member
  exact not_endsLine_quotedChar around d c inside

/-! ### Text of bytes -/

/-- What follows a first byte is taken from bytes above ASCII only. -/
theorem mem_snd_following_iff {b : UInt8} (ascii : b < 0x80) {n : Nat} {low high : UInt8}
    {bits : Nat} {bytes : Bytes} (above : 0x80 ≤ low) :
    b ∈ (following n low high bits bytes).2 ↔ b ∈ bytes := by
  induction n generalizing low high bits bytes with
  | zero => rfl
  | succ n ih =>
    cases bytes with
    | nil => rfl
    | cons first rest =>
      rw [following]
      split
      · rename_i within
        have other : b ≠ first := by
          rintro rfl
          exact absurd (UInt8.lt_of_lt_of_le ascii above) (UInt8.not_lt.mpr within.1)
        rw [ih UInt8.le_rfl, List.mem_cons, or_iff_right other]
      · rfl

theorem fst_following_ge {n : Nat} {low high : UInt8} {bits : Nat} {bytes : Bytes} {code : Nat}
    (complete : (following n low high bits bytes).1 = some code) : bits ≤ code := by
  induction n generalizing low high bits bytes with
  | zero => exact Nat.le_of_eq (Option.some.inj complete)
  | succ n ih =>
    cases bytes with
    | nil => cases complete
    | cons first rest =>
      rw [following] at complete
      split at complete
      · have grown := ih complete
        omega
      · cases complete

/-- What a first byte announces is large enough for no control of ASCII to come out. -/
theorem Lead.large {b : UInt8} {lead : Lead} (leads : lead? b = some lead) :
    0x80 ≤ lead.low ∧ ∃ n, lead.following = n + 1 ∧
      16 ≤ 64 * lead.bits + (lead.low.toNat - 0x80) := by
  unfold lead? at leads
  dsimp only at leads
  repeat' split at leads
  all_goals cases leads
  all_goals exact ⟨by simp, _, rfl, by simp <;> omega⟩

theorem sixteen_le_of_following {b : UInt8} {lead : Lead} (leads : lead? b = some lead)
    {bytes : Bytes} {code : Nat}
    (complete : (following lead.following lead.low lead.high lead.bits bytes).1 = some code) :
    16 ≤ code := by
  obtain ⟨-, n, several, large⟩ := Lead.large leads
  rw [several] at complete
  cases bytes with
  | nil => cases complete
  | cons first rest =>
    rw [following] at complete
    split at complete
    · rename_i within
      have grown := fst_following_ge complete
      have least : lead.low.toNat ≤ first.toNat := within.1
      omega
    · cases complete

/-- A number that is no code gives the character zero. -/
theorem toNat_ofNat_cases (n : Nat) : (Char.ofNat n).toNat = n ∨ (Char.ofNat n).toNat = 0 := by
  by_cases valid : n.isValidChar
  · left
    rw [Char.ofNat, dif_pos valid]
    rfl
  · right
    rw [Char.ofNat, dif_neg valid]
    rfl

theorem toNat_ofNat_of_lt {n : Nat} (ascii : n < 128) : (Char.ofNat n).toNat = n := by
  have valid : n.isValidChar := .inl (by omega)
  rw [Char.ofNat, dif_pos valid]
  rfl

/-- A control of ASCII is read from its own byte only, and no other character takes its byte. -/
theorem readChar_control {b : UInt8} (low : b.toNat < 16) (nonzero : b ≠ 0) (first : UInt8)
    (rest : Bytes) :
    ((readChar first rest).1 = Char.ofNat b.toNat ↔ first = b) ∧
      (b ∈ (readChar first rest).2 ↔ b ∈ rest) := by
  have code : (Char.ofNat b.toNat).toNat = b.toNat := toNat_ofNat_of_lt (by omega)
  have positive : b.toNat ≠ 0 := fun zero => nonzero (UInt8.toNat_inj.mp zero)
  have ascii : b < 0x80 := UInt8.lt_iff_toNat_lt.mpr (Nat.lt_trans low (by decide))
  have other {c : Char} (different : c.toNat ≠ b.toNat) : c ≠ Char.ofNat b.toNat := by
    rintro rfl
    exact different code
  by_cases single : first < 0x80
  · rw [readChar, if_pos single]
    refine ⟨?_, Iff.rfl⟩
    rw [← Char.toNat_inj, code, toNat_ofNat_of_lt (UInt8.lt_iff_toNat_lt.mp single),
      UInt8.toNat_inj]
  · have unlike : first ≠ b := by
      rintro rfl
      exact single ascii
    have mark : replacement ≠ Char.ofNat b.toNat := by
      apply other
      have large : replacement.toNat = 0xFFFD := rfl
      omega
    rw [readChar, if_neg single]
    cases leads : lead? first with
    | none => exact ⟨iff_of_false mark unlike, Iff.rfl⟩
    | some lead =>
      obtain ⟨above, -⟩ := Lead.large leads
      dsimp only
      refine ⟨iff_of_false ?_ unlike, mem_snd_following_iff ascii above⟩
      cases complete : (following lead.following lead.low lead.high lead.bits rest).1 with
      | none => exact mark
      | some n =>
        have large := sixteen_le_of_following leads complete
        apply other
        rcases toNat_ofNat_cases n with same | zero
        · rw [Option.map_some, Option.getD_some, same]
          omega
        · rw [Option.map_some, Option.getD_some, zero]
          exact positive.symm

/-- A text of bytes has the controls of ASCII that stand among the bytes. -/
theorem mem_readUtf8_iff {b : UInt8} (low : b.toNat < 16) (nonzero : b ≠ 0) (bytes : Bytes) :
    Char.ofNat b.toNat ∈ readUtf8 bytes ↔ b ∈ bytes := by
  fun_induction readUtf8 bytes with
  | case1 => simp
  | case2 first rest ih =>
    obtain ⟨here, later⟩ := readChar_control low nonzero first rest
    rw [List.mem_cons, List.mem_cons, ih, later, eq_comm, here, eq_comm]

/-- A text of bytes stays on one line unless a line end stands among the bytes. -/
theorem oneLine_readUtf8_iff (bytes : Bytes) :
    OneLine (String.ofList (readUtf8 bytes)) ↔ 10 ∉ bytes ∧ 13 ∉ bytes := by
  have feed : '\n' ∈ readUtf8 bytes ↔ 10 ∈ bytes :=
    mem_readUtf8_iff (b := 10) (by decide) (by decide) bytes
  have back : '\r' ∈ readUtf8 bytes ↔ 13 ∈ bytes :=
    mem_readUtf8_iff (b := 13) (by decide) (by decide) bytes
  rw [← feed, ← back, oneLine_ofList]
  constructor
  · intro fine
    exact ⟨fun member => fine _ member (.inl rfl), fun member => fine _ member (.inr rfl)⟩
  · rintro ⟨noFeed, noBack⟩
    exact not_endsLine_of_mem noFeed noBack

end Text

/-! ### Text of addresses -/

open Text

theorem Ipv4.oneLine_text (ip : Ipv4) : OneLine (String.ofList ip.text) :=
  oneLine_ofList.mpr (not_endsLine_of_mem (ip.notMem_text (by decide) (by decide))
    (ip.notMem_text (by decide) (by decide)))

theorem Ipv6.oneLine_dottedText (ip : Ipv6) : OneLine (String.ofList ip.dottedText) := by
  have spelt := ip.spelling_dottedText
  rw [oneLine_ofList]
  exact not_endsLine_of_mem (spelt.notMem (by decide) (by decide) (by decide) (by decide))
    (spelt.notMem (by decide) (by decide) (by decide) (by decide))

end SocksTunnel
