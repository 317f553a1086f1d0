import SocksTunnel.Proofs.Ip.Canonical

/-!
How IP addresses are spelt, as a grammar.

An IPv4 address is spelt in one way only. An IPv6 address may be spelt in many: the digits of a
group are of either case and may have zeros in front, groups of zeros may be left out at two colons,
wherever they stand and however many they are, and the last two groups may be written as an IPv4
address. The grammar says which groups a text has; the readers look for the two colons first.

* `Ipv4.read?_eq_some_iff` — an IPv4 address is read from its text, and from no other one.
* `Ipv6.Row`, `Ipv6.Spelling` — the grammar of groups with colons between them, and of addresses.
* `Ipv6.read?_eq_some_iff`, `IpLiteral.read?_eq_some_iff` — what is read is what is spelt.
* `Ipv6.spelling_dottedText` — the text with points spells the address that it was written for.
-/

namespace SocksTunnel

open SocksTunnel.Text

/-! ### Four numbers -/

namespace Ipv4

theorem readByte?_eq_some_iff {piece : List Char} {b : UInt8} :
    readByte? piece = some b ↔ piece = decimalDigits b.toNat := by
  constructor
  · intro read
    have plain := (readByte?_digits read).2
    unfold readByte? at read
    split at read
    · cases read
    · rename_i shape
      split at read
      · cases read
      · rename_i leading
        split at read
        · cases read
        · rename_i small
          cases read
          have nonempty : piece ≠ [] := by
            rintro rfl
            exact shape rfl
          have first : 1 < piece.length → piece.head? ≠ some '0' :=
            fun long zero => leading ⟨zero, long⟩
          rw [UInt8.toNat_ofNat_of_lt' (Nat.lt_succ_of_le (Nat.le_of_not_lt small)),
            decimalDigits_plainNumber nonempty plain first]
  · rintro rfl
    exact readByte?_decimalDigits b

/-- An address is read from its text, and from no other one. -/
theorem read?_eq_some_iff {cs : List Char} {ip : Ipv4} : read? cs = some ip ↔ cs = ip.text := by
  constructor
  · intro read
    have joined : ['.'].intercalate (cs.splitOn '.') = cs := List.intercalate_splitOn '.'
    unfold read? at read
    split at read
    · rename_i a b c d pieces
      simp only [bind, Option.bind_eq_some_iff, pure, Option.some.injEq,
        readByte?_eq_some_iff] at read
      obtain ⟨a', rfl, b', rfl, c', rfl, d', rfl, rfl⟩ := read
      rw [← joined, pieces]
      rfl
    · cases read
  · rintro rfl
    exact ip.read?_text

theorem text_ne_nil (ip : Ipv4) : ip.text ≠ [] := by
  obtain ⟨c, first, -⟩ := ip.head?_text
  intro empty
  rw [empty] at first
  cases first

theorem colon_notMem_text (ip : Ipv4) : ':' ∉ ip.text := ip.notMem_text (by decide) (by decide)

theorem point_mem_text (ip : Ipv4) : '.' ∈ ip.text := by
  simp [text, bytes, List.intercalate]

end Ipv4

namespace Ipv6

/-! ### Groups -/

theorem hexValue?_lt {c : Char} {d : Nat} (digit : hexValue? c = some d) : d < 16 := by
  unfold hexValue? at digit
  split at digit
  · rename_i range
    have most : c.toNat ≤ 57 := range.2
    cases digit
    omega
  · split at digit
    · rename_i range
      have most : c.toNat ≤ 102 := range.2
      cases digit
      omega
    · split at digit
      · rename_i range
        have most : c.toNat ≤ 70 := range.2
        cases digit
        omega
      · cases digit

theorem grown_lt (n : Nat) (cs : List Char) : grown n cs < (n + 1) * 16 ^ cs.length := by
  induction cs generalizing n with
  | nil => simp [grown]
  | cons c cs ih =>
      have digit : (hexValue? c).getD 0 < 16 := by
        cases value : hexValue? c with
        | none => exact Nat.zero_lt_succ 15
        | some d => exact hexValue?_lt value
      have step : 16 * n + (hexValue? c).getD 0 + 1 ≤ 16 * (n + 1) := by omega
      calc
        grown n (c :: cs) = grown (16 * n + (hexValue? c).getD 0) cs := rfl
        _ < (16 * n + (hexValue? c).getD 0 + 1) * 16 ^ cs.length := ih _
        _ ≤ 16 * (n + 1) * 16 ^ cs.length := Nat.mul_le_mul_right _ step
        _ = (n + 1) * 16 ^ (c :: cs).length := by
          rw [List.length_cons, Nat.pow_succ', Nat.mul_comm 16, Nat.mul_assoc]

/-- A spelling of a group: one to four hexadecimal digits that write it. -/
structure SpellsGroup (piece : List Char) (g : UInt16) : Prop where
  nonempty : piece ≠ []
  short : piece.length ≤ 4
  digits : isHex piece = true
  writes : grown 0 piece = g.toNat

theorem readGroup?_eq_some_iff {piece : List Char} {g : UInt16} :
    readGroup? piece = some g ↔ SpellsGroup piece g := by
  by_cases nonempty : piece = []
  · subst nonempty
    constructor
    · intro read
      cases read
    · intro spelt
      exact absurd rfl spelt.nonempty
  · rw [readGroup?_eq nonempty]
    constructor
    · intro read
      split at read
      · rename_i shape
        cases read
        have small : grown 0 piece < 65536 := by
          apply Nat.lt_of_lt_of_le (grown_lt 0 piece)
          rw [Nat.zero_add, Nat.one_mul]
          exact Nat.pow_le_pow_right (n := 16) (by decide) shape.2
        exact ⟨nonempty, shape.2, shape.1, (UInt16.toNat_ofNat_of_lt' small).symm⟩
      · cases read
    · rintro ⟨-, short, digits, writes⟩
      rw [if_pos ⟨digits, short⟩, writes, UInt16.ofNat_toNat]

theorem SpellsGroup.notMem {piece : List Char} {g : UInt16} (spelt : SpellsGroup piece g) {c : Char}
    (other : hexValue? c = none) : c ∉ piece := by
  intro member
  have digit := List.all_eq_true.mp spelt.digits c member
  rw [other] at digit
  cases digit

theorem SpellsGroup.colon_notMem {piece : List Char} {g : UInt16} (spelt : SpellsGroup piece g) :
    ':' ∉ piece := spelt.notMem hexValue?_colon

/-! ### Groups with colons between them -/

/-- The two groups that an IPv4 address stands for. -/
def pairOf (ip : Ipv4) : List UInt16 := [groupOf ip.first ip.second, groupOf ip.third ip.fourth]

/-- Groups with colons between them. If it is `dotted`, the last two may be an IPv4 address. -/
inductive Row (dotted : Bool) : List Char → List UInt16 → Prop where
  | group {piece : List Char} {g : UInt16} (spelt : SpellsGroup piece g) : Row dotted piece [g]
  | embedded {ip : Ipv4} (allowed : dotted = true) : Row dotted ip.text (pairOf ip)
  | more {piece rest : List Char} {g : UInt16} {gs : List UInt16} (spelt : SpellsGroup piece g)
      (others : Row dotted rest gs) : Row dotted (piece ++ ':' :: rest) (g :: gs)

/-- What may stand on one side of two colons: a row of groups, or nothing. -/
inductive Side (dotted : Bool) : List Char → List UInt16 → Prop where
  | nothing : Side dotted [] []
  | row {cs : List Char} {gs : List UInt16} (spelt : Row dotted cs gs) : Side dotted cs gs

/-- A spelling of an address: all of its groups in a row, or two colons for some zeros, one group at
least, between what stands in front of them and what stands behind them. -/
inductive Spelling : List Char → Ipv6 → Prop where
  | whole {cs : List Char} {ip : Ipv6} (row : Row true cs ip.groups) : Spelling cs ip
  | shortened {front back : List Char} {left right : List UInt16} {zeros : Nat} {ip : Ipv6}
      (before : Side false front left) (after : Side true back right) (some : 0 < zeros)
      (groups : ip.groups = left ++ List.replicate zeros 0 ++ right) :
      Spelling (front ++ ':' :: ':' :: back) ip

section

variable {dotted : Bool} {cs : List Char} {gs : List UInt16}

theorem readLast?_eq_some_iff :
    readLast? cs = some gs ↔
      (∃ g, SpellsGroup cs g ∧ gs = [g]) ∨ ∃ ip : Ipv4, cs = ip.text ∧ gs = pairOf ip := by
  by_cases point : '.' ∈ cs
  · have group (g : UInt16) : ¬ SpellsGroup cs g := fun spelt => spelt.notMem hexValue?_point point
    have read : readLast? cs = (Ipv4.read? cs).map pairOf := if_pos (by simpa using point)
    rw [read, Option.map_eq_some_iff]
    simp only [Ipv4.read?_eq_some_iff, group, false_and, exists_false, false_or]
    simp only [eq_comm]
  · have address (ip : Ipv4) : cs ≠ ip.text := by
      rintro rfl
      exact point ip.point_mem_text
    have read : readLast? cs = (readGroup? cs).map ([·]) := if_neg (by simpa using point)
    rw [read, Option.map_eq_some_iff]
    simp only [readGroup?_eq_some_iff, address, false_and, exists_false, or_false]
    simp only [eq_comm]

theorem Row.ne_nil (row : Row dotted cs gs) : cs ≠ [] := by
  cases row with
  | group spelt => exact spelt.nonempty
  | embedded allowed => exact Ipv4.text_ne_nil _
  | more spelt others => exact List.append_ne_nil_of_right_ne_nil _ (List.cons_ne_nil _ _)

/-- A row of groups is read as these groups. -/
theorem Row.readGroups? (row : Row dotted cs gs) : readGroups? dotted cs = some gs := by
  induction row with
  | @group piece g spelt =>
      cases dotted with
      | false =>
          rw [readGroups?_single spelt.colon_notMem spelt.nonempty,
            readGroup?_eq_some_iff.mpr spelt, Option.map_some]
      | true =>
          rw [readGroups?_last spelt.colon_notMem spelt.nonempty, readLast?_eq_some_iff]
          exact .inl ⟨g, spelt, rfl⟩
  | @embedded ip allowed =>
      rw [allowed, readGroups?_last ip.colon_notMem_text ip.text_ne_nil, readLast?_eq_some_iff]
      exact .inr ⟨ip, rfl, rfl⟩
  | more spelt others ih =>
      rw [readGroups?_piece dotted spelt.colon_notMem, readGroup?_eq_some_iff.mpr spelt,
        Option.bind_some, if_neg others.ne_nil, ih, Option.map_some]

/-- Groups that are read from a text stand in a row there. -/
theorem row_of_readGroups? (nonempty : cs ≠ []) (read : readGroups? dotted cs = some gs) :
    Row dotted cs gs := by
  induction cs using pieces_induction ':' generalizing gs with
  | last piece whole =>
      cases dotted with
      | false =>
          rw [readGroups?_single whole nonempty, Option.map_eq_some_iff] at read
          obtain ⟨g, read, rfl⟩ := read
          exact .group (readGroup?_eq_some_iff.mp read)
      | true =>
          rw [readGroups?_last whole nonempty, readLast?_eq_some_iff] at read
          rcases read with ⟨g, spelt, rfl⟩ | ⟨ip, rfl, rfl⟩
          · exact .group spelt
          · exact .embedded rfl
  | next piece rest whole ih =>
      rw [readGroups?_piece dotted whole, Option.bind_eq_some_iff] at read
      obtain ⟨g, first, later⟩ := read
      obtain ⟨gs', others, rfl⟩ := Option.map_eq_some_iff.mp later
      split at others
      · cases others
      · rename_i more
        exact .more (readGroup?_eq_some_iff.mp first) (ih more others)

theorem readGroups?_eq_some_iff : readGroups? dotted cs = some gs ↔ Side dotted cs gs := by
  constructor
  · intro read
    by_cases empty : cs = []
    · subst empty
      cases read
      exact .nothing
    · exact .row (row_of_readGroups? empty read)
  · intro side
    cases side with
    | nothing => rfl
    | row spelt => exact spelt.readGroups?

/-! ### The first two colons -/

theorem Row.head? (row : Row dotted cs gs) : cs.head? ≠ some ':' := by
  have begins {front : List Char} (nonempty : front ≠ []) (whole : ':' ∉ front) (back : List Char) :
      (front ++ back).head? ≠ some ':' := by
    rw [List.head?_append_of_ne_nil _ nonempty]
    exact fun first => whole (List.mem_of_head? first)
  cases row with
  | group spelt => simpa using begins spelt.nonempty spelt.colon_notMem []
  | @embedded ip allowed => simpa using begins ip.text_ne_nil ip.colon_notMem_text []
  | more spelt others => exact begins spelt.nonempty spelt.colon_notMem _

/-- In a row no two colons stand together. -/
theorem Row.splitGap? (row : Row dotted cs gs) : splitGap? cs = none := by
  induction row with
  | group spelt => exact splitGap?_of_not_mem spelt.colon_notMem
  | @embedded ip allowed => exact splitGap?_of_not_mem ip.colon_notMem_text
  | more spelt others ih =>
      rw [splitGap?_later spelt.colon_notMem others.head?, ih, Option.map_none]

/-- So the first two colons together are those behind the row. -/
theorem Row.splitGap?_append (row : Row false cs gs) (back : List Char) :
    Ipv6.splitGap? (cs ++ ':' :: ':' :: back) = some (cs, back) := by
  induction row with
  | group spelt => exact splitGap?_here spelt.colon_notMem back
  | embedded allowed => cases allowed
  | @more piece rest g gs spelt others ih =>
      have single : (rest ++ ':' :: ':' :: back).head? ≠ some ':' := by
        rw [List.head?_append_of_ne_nil _ others.ne_nil]
        exact others.head?
      rw [List.append_assoc, List.cons_append, splitGap?_later spelt.colon_notMem single, ih,
        Option.map_some]

theorem Side.splitGap?_append (side : Side false cs gs) (back : List Char) :
    Ipv6.splitGap? (cs ++ ':' :: ':' :: back) = some (cs, back) := by
  cases side with
  | nothing => rfl
  | row spelt => exact spelt.splitGap?_append back

/-- A text that is cut at its first two colons is what stands on both sides of them. -/
theorem eq_of_splitGap? {before after : List Char} (split : splitGap? cs = some (before, after)) :
    cs = before ++ ':' :: ':' :: after := by
  fun_induction splitGap? cs generalizing before with
  | case1 rest =>
      cases split
      rfl
  | case2 c rest _ ih =>
      obtain ⟨⟨before', after'⟩, later, same⟩ := Option.map_eq_some_iff.mp split
      cases same
      rw [ih later]
      rfl
  | case3 => cases split

end

/-! ### Addresses -/

theorem eq_of_ofGroups? {groups : List UInt16} {ip : Ipv6} (made : ofGroups? groups = some ip) :
    ip.groups = groups := by
  unfold ofGroups? at made
  split at made
  · cases made
    rfl
  · cases made

/-- An address is read from its spellings, and from no other text. -/
theorem read?_eq_some_iff {cs : List Char} {ip : Ipv6} : read? cs = some ip ↔ Spelling cs ip := by
  constructor
  · intro read
    unfold read? at read
    split at read
    · rename_i unsplit
      simp only [bind, Option.bind_eq_some_iff] at read
      obtain ⟨groups, read, made⟩ := read
      obtain rfl := eq_of_ofGroups? made
      have nonempty : cs ≠ [] := by
        rintro rfl
        have none := congrArg (Option.map List.length) read
        rw [Option.map_some, ip.length_groups] at none
        cases none
      exact .whole (row_of_readGroups? nonempty read)
    · rename_i before after split
      simp only [bind, Option.bind_eq_some_iff] at read
      obtain ⟨left, front, right, back, read⟩ := read
      split at read
      · rename_i few
        rw [eq_of_splitGap? split]
        exact .shortened (readGroups?_eq_some_iff.mp front) (readGroups?_eq_some_iff.mp back)
          (Nat.sub_pos_of_lt few) (eq_of_ofGroups? read)
      · cases read
  · intro spelt
    cases spelt with
    | whole row => simp [read?, row.splitGap?, row.readGroups?, ofGroups?_self]
    | @shortened front back left right zeros ip before after some groups =>
        have count := congrArg List.length groups
        simp only [ip.length_groups, List.length_append, List.length_replicate] at count
        have few : left.length + right.length < 8 := by omega
        have missing : 8 - (left.length + right.length) = zeros := by omega
        rw [read?, before.splitGap?_append]
        simp only [readGroups?_eq_some_iff.mpr before, readGroups?_eq_some_iff.mpr after, bind,
          Option.bind_some, if_pos few, missing, ← groups, ofGroups?_self]

theorem spelling_text (ip : Ipv6) : Spelling ip.text ip := read?_eq_some_iff.mp ip.read?_text

/-! ### The text with points -/

/-- A group is made again from its two bytes. -/
theorem groupOf_bytes (g : UInt16) :
    groupOf (UInt8.ofNat (g.toNat / 256)) (UInt8.ofNat (g.toNat % 256)) = g := by
  have bound := g.toNat_lt
  have high : g.toNat / 256 % 256 = g.toNat / 256 := by omega
  apply UInt16.toNat_inj.mp
  simp [groupOf, high]
  omega

theorem pairOf_of_tailAddress {groups : List UInt16} {tail : Ipv4}
    (address : tailAddress groups = some tail) : pairOf tail = groups.drop 6 := by
  unfold tailAddress at address
  split at address
  · cases address
    simp [pairOf, groupOf_bytes]
  · cases address

/-- The text with points spells the address that it was written for. -/
theorem spelling_dottedText (ip : Ipv6) : Spelling ip.dottedText ip := by
  have parts := groups_eq_zeroRun ip.groups
  unfold dottedText
  cases address : tailAddress ip.groups with
  | none => exact ip.spelling_text
  | some tail =>
      have last := pairOf_of_tailAddress address
      dsimp only
      split
      · rename_i run
        have groups : ip.groups = [] ++ List.replicate 6 0 ++ pairOf tail := by
          rw [run] at parts
          rw [last]
          exact parts
        have some : 0 < 6 := by decide
        exact .shortened .nothing (.row (.embedded rfl)) some groups
      · split
        · rename_i mapped
          obtain ⟨run, ones⟩ := mapped
          obtain ⟨reached, ones⟩ := List.getElem?_eq_some_iff.mp ones
          have groups : ip.groups = [] ++ List.replicate 5 0 ++ 0xFFFF :: pairOf tail := by
            rw [run] at parts
            rw [last, ← ones, ← List.drop_eq_getElem_cons reached]
            exact parts
          have group : SpellsGroup ['f', 'f', 'f', 'f'] 0xFFFF :=
            ⟨by decide, by decide, by decide, by decide⟩
          have some : 0 < 5 := by decide
          exact .shortened .nothing (.row (.more group (.embedded rfl))) some groups
        · exact ip.spelling_text

/-! ### Characters of a spelling -/

section

variable {c : Char}

theorem Row.notMem {dotted : Bool} {cs : List Char} {gs : List UInt16} (row : Row dotted cs gs)
    (digit : hexValue? c = none) (plain : isPlainDigit c = false) (colon : c ≠ ':')
    (point : c ≠ '.') : c ∉ cs := by
  induction row with
  | group spelt => exact spelt.notMem digit
  | @embedded ip allowed => exact ip.notMem_text plain point
  | more spelt others ih => simp [spelt.notMem digit, colon, ih]

theorem Side.notMem {dotted : Bool} {cs : List Char} {gs : List UInt16} (side : Side dotted cs gs)
    (digit : hexValue? c = none) (plain : isPlainDigit c = false) (colon : c ≠ ':')
    (point : c ≠ '.') : c ∉ cs := by
  cases side with
  | nothing => exact List.not_mem_nil
  | row spelt => exact spelt.notMem digit plain colon point

/-- A spelling is made of digits, colons and points. -/
theorem Spelling.notMem {cs : List Char} {ip : Ipv6} (spelt : Spelling cs ip)
    (digit : hexValue? c = none) (plain : isPlainDigit c = false) (colon : c ≠ ':')
    (point : c ≠ '.') : c ∉ cs := by
  cases spelt with
  | whole row => exact row.notMem digit plain colon point
  | shortened before after some groups =>
      simp [before.notMem digit plain colon point, after.notMem digit plain colon point, colon]

theorem Spelling.percent_notMem {cs : List Char} {ip : Ipv6} (spelt : Spelling cs ip) :
    '%' ∉ cs := spelt.notMem (by decide) (by decide) (by decide) (by decide)

end

/-- Eight groups are too many for a single piece. -/
theorem Spelling.colon_mem {cs : List Char} {ip : Ipv6} (spelt : Spelling cs ip) : ':' ∈ cs := by
  cases spelt with
  | whole row =>
      have count := ip.length_groups
      generalize ip.groups = groups at row count
      cases row with
      | group spelt => cases count
      | embedded allowed => cases count
      | more spelt others => simp
  | shortened before after some groups => simp

end Ipv6

/-! ### Literals -/

namespace IpLiteral

/-- A spelling of a literal. A zone stands after a percent sign; it is not empty, and holds neither
a percent sign nor a slash. -/
inductive Spelling : List Char → IpLiteral → Prop where
  | v4 (ip : Ipv4) : Spelling ip.text (.v4 ip)
  | v6 {cs : List Char} {ip : Ipv6} (spelt : Ipv6.Spelling cs ip) : Spelling cs (.v6 ip none)
  | zoned {cs zone : List Char} {ip : Ipv6} (spelt : Ipv6.Spelling cs ip) (named : zone ≠ [])
      (percent : '%' ∉ zone) (slash : '/' ∉ zone) :
      Spelling (cs ++ '%' :: zone) (.v6 ip (some zone))

theorem spelling_of_readZoned? {cs : List Char} {literal : IpLiteral}
    (read : readZoned? cs = some literal) : Spelling cs literal := by
  have whole := List.takeWhile_append_dropWhile (p := (· != '%')) (l := cs)
  have here := List.head?_dropWhile_not (· != '%') cs
  unfold readZoned? at read
  split at read
  · rename_i ended
    rw [ended, List.append_nil] at whole
    rw [whole] at read
    obtain ⟨ip, found, rfl⟩ := Option.map_eq_some_iff.mp read
    exact .v6 (Ipv6.read?_eq_some_iff.mp found)
  · rename_i c zone rest
    split at read
    · cases read
    · rename_i named
      simp only [Bool.or_eq_true, not_or, List.isEmpty_iff, List.contains_iff_mem] at named
      obtain ⟨ip, found, rfl⟩ := Option.map_eq_some_iff.mp read
      rw [rest] at whole here
      obtain rfl : c = '%' := by simpa using here
      rw [← whole]
      exact .zoned (Ipv6.read?_eq_some_iff.mp found) named.1.1 named.1.2 named.2

/-- A literal is read from its spellings, and from no other text. -/
theorem read?_eq_some_iff {cs : List Char} {literal : IpLiteral} :
    read? cs = some literal ↔ Spelling cs literal := by
  constructor
  · intro read
    unfold read? at read
    split at read
    · rename_i ip found
      cases read
      rw [Ipv4.read?_eq_some_iff.mp found]
      exact .v4 ip
    · exact spelling_of_readZoned? read
  · intro spelt
    cases spelt with
    | v4 ip => exact read?_v4_text ip
    | v6 spelt =>
        have other := Ipv4.read?_eq_none_of_mem spelt.colon_mem (by decide) (by decide)
        have whole := bne_of_notMem spelt.percent_notMem
        have ends : cs.dropWhile (· != '%') = [] := List.dropWhile_eq_nil_iff.mpr whole
        rw [read?, other]
        dsimp only
        rw [readZoned?, ends, List.takeWhile_eq_self_iff.mpr whole]
        simp [Ipv6.read?_eq_some_iff.mpr spelt]
    | @zoned front zone ip spelt named percent slash =>
        have colon : ':' ∈ front ++ '%' :: zone := List.mem_append_left _ spelt.colon_mem
        have other := Ipv4.read?_eq_none_of_mem colon (by decide) (by decide)
        have whole := bne_of_notMem spelt.percent_notMem
        rw [read?, other]
        dsimp only
        rw [readZoned?, List.dropWhile_append_of_pos whole, List.takeWhile_append_of_pos whole]
        simp [Ipv6.read?_eq_some_iff.mpr spelt, named, percent, slash]

/-- No text spells two literals. -/
theorem Spelling.unique {cs : List Char} {literal literal' : IpLiteral}
    (spelt : Spelling cs literal) (spelt' : Spelling cs literal') : literal = literal' := by
  have read := read?_eq_some_iff.mpr spelt
  rw [read?_eq_some_iff.mpr spelt', Option.some.injEq] at read
  exact read.symm

theorem read?_eq_none_iff {cs : List Char} :
    read? cs = none ↔ ∀ literal, ¬ Spelling cs literal := by
  simp only [← read?_eq_some_iff, Option.eq_none_iff_forall_ne_some, ne_eq]

end IpLiteral

end SocksTunnel
