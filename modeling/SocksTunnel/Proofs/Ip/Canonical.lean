import Mathlib.Data.List.TakeWhile
import SocksTunnel.Ip.Literal
import SocksTunnel.Proofs.Ip.V6
import SocksTunnel.Proofs.Text

/-!
The canonical texts of IP addresses are read back as the addresses that they were written for.

* `Ipv4.read?_text` — four numbers with points between them.
* `Ipv6.groups_eq_zeroRun` — the run of zeros that is left out of a text stands where it is said to
  stand, so that it can be put back.
* `Ipv6.read?_text` — eight groups, with the longest run of zeros left out or not.
* `IpLiteral.read?_v4_text`, `IpLiteral.read?_v6_text` — so an address without a zone is read from
  its canonical text, as what it is; `IpLiteral.zone_of_percent` is why one with a zone is not.
-/

namespace SocksTunnel

open SocksTunnel.Text

/-! ### Four numbers -/

namespace Ipv4

theorem readByte?_decimalDigits (b : UInt8) : readByte? (decimalDigits b.toNat) = some b := by
  have bound := b.toNat_lt
  have short : (decimalDigits b.toNat).length ≤ 3 := length_decimalDigits_le (k := 2) (by omega)
  have plain := List.all_eq_true.mpr (isPlainDigit_decimalDigits b.toNat)
  have leading : ¬ ((decimalDigits b.toNat).head? = some '0' ∧
      1 < (decimalDigits b.toNat).length) := by
    rintro ⟨zero, long⟩
    by_cases pos : 0 < b.toNat
    · exact head?_decimalDigits pos zero
    · have single := length_decimalDigits_le (n := b.toNat) (k := 0) (by omega)
      omega
  have shape : ¬ ((decimalDigits b.toNat).isEmpty || 3 < (decimalDigits b.toNat).length ||
      !(decimalDigits b.toNat).all isPlainDigit) = true := by
    simp [decimalDigits_ne_nil, short, plain]
  rw [readByte?, if_neg shape, if_neg leading, plainNumber_decimalDigits,
    if_neg (Nat.not_lt.mpr (Nat.le_of_lt_succ bound)), UInt8.ofNat_toNat]

theorem read?_text (ip : Ipv4) : read? ip.text = some ip := by
  have pieces : ip.text.splitOn '.' = ip.bytes.map fun b => decimalDigits b.toNat := by
    apply List.splitOn_intercalate
    · intro piece member
      obtain ⟨b, -, rfl⟩ := List.mem_map.mp member
      exact notMem_decimalDigits rfl b.toNat
    · exact List.cons_ne_nil _ _
  simp [read?, pieces, bytes, readByte?_decimalDigits]

theorem notMem_text (ip : Ipv4) {c : Char} (other : isPlainDigit c = false) (point : c ≠ '.') :
    c ∉ ip.text := by
  intro member
  have absent := read?_eq_none_of_mem member other point
  rw [read?_text] at absent
  cases absent

/-- A text of an address begins with a digit. -/
theorem head?_text (ip : Ipv4) : ∃ c, ip.text.head? = some c ∧ isPlainDigit c = true := by
  have text : ∃ rest, ip.text = decimalDigits ip.first.toNat ++ rest := by
    simp [text, bytes, List.intercalate]
  obtain ⟨rest, text⟩ := text
  cases digits : decimalDigits ip.first.toNat with
  | nil => exact absurd digits (decimalDigits_ne_nil _)
  | cons c more =>
      have plain := isPlainDigit_decimalDigits ip.first.toNat c (digits ▸ List.mem_cons_self)
      exact ⟨c, by rw [text, digits]; rfl, plain⟩

end Ipv4

/-! ### Groups -/

namespace Ipv6

theorem hexValue?_digitChar {d : Nat} (small : d < 16) : hexValue? (digitChar d) = some d := by
  have all : ∀ d : Fin 16, hexValue? (digitChar d) = some d.val := by decide
  exact all ⟨d, small⟩

theorem hexText_ne_nil (n : Nat) : hexText n ≠ [] := by
  rw [hexText]
  split <;> simp

theorem isHex_hexText (n : Nat) : isHex (hexText n) = true := by
  induction n using Nat.strongRecOn with
  | ind n ih =>
      rw [hexText]
      split
      · rename_i small
        simp [isHex, hexValue?_digitChar small]
      · have front := ih (n / 16) (by omega)
        have last := hexValue?_digitChar (Nat.mod_lt n (by decide : 0 < 16))
        rw [isHex] at front
        simp [isHex, front, last]

/-- The hexadecimal text of a number writes it. -/
theorem grown_hexText (n : Nat) : grown 0 (hexText n) = n := by
  induction n using Nat.strongRecOn with
  | ind n ih =>
      rw [hexText]
      split
      · rename_i small
        simp [grown, hexValue?_digitChar small]
      · have front := ih (n / 16) (by omega)
        have last := hexValue?_digitChar (Nat.mod_lt n (by decide : 0 < 16))
        rw [grown] at front
        rw [grown, List.foldl_append, front]
        simp [last]
        omega

theorem length_hexText_le {n k : Nat} (bound : n < 16 ^ (k + 1)) :
    (hexText n).length ≤ k + 1 := by
  induction k generalizing n with
  | zero =>
      rw [hexText, if_pos (by simpa using bound)]
      simp
  | succ k ih =>
      rw [hexText]
      split
      · simp
      · have front := @ih (n / 16) (by rw [Nat.pow_succ] at bound; omega)
        simpa using front

theorem readGroup?_hexText (g : UInt16) : readGroup? (hexText g.toNat) = some g := by
  have bound := g.toNat_lt
  have short : (hexText g.toNat).length ≤ 4 := length_hexText_le (k := 3) (by omega)
  rw [readGroup?_eq (hexText_ne_nil _), if_pos ⟨isHex_hexText _, short⟩, grown_hexText,
    UInt16.ofNat_toNat]

theorem hexValue?_of_mem_hexText {n : Nat} {c : Char} (member : c ∈ hexText n) :
    (hexValue? c).isSome = true := List.all_eq_true.mp (isHex_hexText n) c member

theorem notMem_hexText {c : Char} (other : hexValue? c = none) (n : Nat) : c ∉ hexText n := by
  intro member
  have digit := hexValue?_of_mem_hexText member
  rw [other] at digit
  cases digit

theorem colon_notMem_hexText (n : Nat) : ':' ∉ hexText n := notMem_hexText hexValue?_colon n

/-! ### Groups with colons between them -/

@[simp] theorem colonText_nil : colonText [] = [] := rfl

@[simp] theorem colonText_singleton (g : UInt16) : colonText [g] = hexText g.toNat := by
  simp [colonText]

@[simp] theorem colonText_cons_cons (g g' : UInt16) (gs : List UInt16) :
    colonText (g :: g' :: gs) = hexText g.toNat ++ ':' :: colonText (g' :: gs) := by
  simp [colonText, List.intercalate]

theorem head?_colonText (gs : List UInt16) : (colonText gs).head? ≠ some ':' := by
  have begins (g : UInt16) (rest : List Char) : (hexText g.toNat ++ rest).head? ≠ some ':' := by
    cases digits : hexText g.toNat with
    | nil => exact absurd digits (hexText_ne_nil _)
    | cons c more =>
        rintro ⟨rfl⟩
        exact colon_notMem_hexText g.toNat (digits ▸ List.mem_cons_self)
  match gs with
  | [] => simp
  | [g] => simpa using begins g []
  | g :: g' :: gs => simpa using begins g (':' :: colonText (g' :: gs))

theorem colonText_ne_nil {gs : List UInt16} (nonempty : gs ≠ []) : colonText gs ≠ [] := by
  match gs with
  | [] => exact absurd rfl nonempty
  | [g] => simpa using hexText_ne_nil g.toNat
  | g :: g' :: gs => simp

/-- The groups of a text are read back. -/
theorem readGroups?_colonText (dotted : Bool) (gs : List UInt16) :
    readGroups? dotted (colonText gs) = some gs := by
  match gs with
  | [] => rfl
  | [g] =>
      have whole := colon_notMem_hexText g.toNat
      have nonempty := hexText_ne_nil g.toNat
      rw [colonText_singleton]
      cases dotted with
      | false => rw [readGroups?_single whole nonempty, readGroup?_hexText, Option.map_some]
      | true =>
          simp [readGroups?_last whole nonempty, readLast?, notMem_hexText hexValue?_point,
            readGroup?_hexText]
  | g :: g' :: gs =>
      have rest := readGroups?_colonText dotted (g' :: gs)
      have more := colonText_ne_nil (List.cons_ne_nil g' gs)
      rw [colonText_cons_cons, readGroups?_piece dotted (colon_notMem_hexText _),
        readGroup?_hexText, if_neg more, rest]
      rfl

/-- No two colons stand together between groups. -/
theorem splitGap?_colonText (gs : List UInt16) : splitGap? (colonText gs) = none := by
  match gs with
  | [] => rfl
  | [g] => simpa using splitGap?_of_not_mem (colon_notMem_hexText g.toNat)
  | g :: g' :: gs =>
      rw [colonText_cons_cons, splitGap?_later (colon_notMem_hexText _) (head?_colonText _),
        splitGap?_colonText (g' :: gs)]
      rfl

/-- The first two colons together are those behind the groups. -/
theorem splitGap?_colonText_append (gs : List UInt16) (rest : List Char) :
    splitGap? (colonText gs ++ ':' :: ':' :: rest) = some (colonText gs, rest) := by
  match gs with
  | [] => rfl
  | [g] => simpa using splitGap?_here (colon_notMem_hexText g.toNat) rest
  | g :: g' :: gs =>
      have next := head?_colonText (g' :: gs)
      have head : (colonText (g' :: gs) ++ ':' :: ':' :: rest).head? ≠ some ':' := by
        rwa [List.head?_append_of_ne_nil _ (colonText_ne_nil (List.cons_ne_nil g' gs))]
      rw [colonText_cons_cons, List.append_assoc, List.cons_append,
        splitGap?_later (colon_notMem_hexText _) head, splitGap?_colonText_append (g' :: gs)]
      rfl

/-! ### Runs of zeros -/

theorem eq_zerosAhead (groups : List UInt16) :
    groups = List.replicate (zerosAhead groups) 0 ++ groups.drop (zerosAhead groups) := by
  induction groups with
  | nil => rfl
  | cons g groups ih =>
      by_cases zero : g = 0
      · subst zero
        simpa [zerosAhead, List.replicate_succ] using ih
      · simp [zerosAhead, zero]

/-- The run of zeros stands where it is said to stand. -/
theorem groups_eq_zeroRun (groups : List UInt16) :
    groups = groups.take (zeroRun groups).1 ++ List.replicate (zeroRun groups).2 0 ++
      groups.drop ((zeroRun groups).1 + (zeroRun groups).2) := by
  induction groups with
  | nil => rfl
  | cons g groups ih =>
      rw [zeroRun]
      split
      · simpa using eq_zerosAhead (g :: groups)
      · have sum : (zeroRun groups).1 + 1 + (zeroRun groups).2 =
            (zeroRun groups).1 + (zeroRun groups).2 + 1 := by omega
        simpa [sum] using ih

theorem ofGroups?_self (ip : Ipv6) : ofGroups? ip.groups = some ip := by
  rw [ofGroups?, dif_pos ip.length_groups]

/-- The canonical text of an address is read back. -/
theorem read?_text (ip : Ipv6) : read? ip.text = some ip := by
  rw [text]
  split
  · simp [read?, splitGap?_colonText, readGroups?_colonText, ofGroups?_self]
  · rename_i long
    have parts := groups_eq_zeroRun ip.groups
    -- Eight groups are left of the run, in it and right of it.
    have count := congrArg List.length parts
    simp only [List.length_append, List.length_replicate, ip.length_groups] at count
    have few : (ip.groups.take (zeroRun ip.groups).1).length +
        (ip.groups.drop ((zeroRun ip.groups).1 + (zeroRun ip.groups).2)).length < 8 := by omega
    have missing : 8 - ((ip.groups.take (zeroRun ip.groups).1).length +
        (ip.groups.drop ((zeroRun ip.groups).1 + (zeroRun ip.groups).2)).length) =
          (zeroRun ip.groups).2 := by omega
    rw [read?, splitGap?_colonText_append]
    simp only [readGroups?_colonText, bind, Option.bind_some, if_pos few, missing, ← parts,
      ofGroups?_self]

/-- A text of an address is made of hexadecimal digits and colons. -/
theorem mem_colonText {gs : List UInt16} {c : Char} (member : c ∈ colonText gs) :
    c = ':' ∨ (hexValue? c).isSome = true := by
  match gs with
  | [] => cases member
  | [g] => exact .inr (hexValue?_of_mem_hexText (by simpa using member))
  | g :: g' :: gs =>
      rw [colonText_cons_cons, List.mem_append, List.mem_cons] at member
      rcases member with here | colon | later
      · exact .inr (hexValue?_of_mem_hexText here)
      · exact .inl colon
      · exact mem_colonText later

theorem notMem_text (ip : Ipv6) {c : Char} (colon : c ≠ ':') (digit : hexValue? c = none) :
    c ∉ ip.text := by
  have groups (gs : List UInt16) : c ∉ colonText gs := by
    intro member
    rcases mem_colonText member with same | some'
    · exact colon same
    · rw [digit] at some'
      cases some'
  rw [text]
  split
  · exact groups _
  · simp [groups, colon]

/-- Among eight groups there is a colon. -/
theorem colon_mem_text (ip : Ipv6) : ':' ∈ ip.text := by
  rw [text]
  split
  · have count := ip.length_groups
    match groups : ip.groups with
    | [] => simp [groups] at count
    | [g] => simp [groups] at count
    | g :: g' :: gs => simp
  · simp

end Ipv6

/-! ### Literals -/

namespace IpLiteral

theorem read?_v4_text (ip : Ipv4) : read? ip.text = some (.v4 ip) := by
  rw [read?, Ipv4.read?_text]

theorem read?_v6_text (ip : Ipv6) : read? ip.text = some (.v6 ip none) := by
  have other : Ipv4.read? ip.text = none :=
    Ipv4.read?_eq_none_of_mem ip.colon_mem_text (by decide) (by decide)
  have whole := bne_of_notMem (ip.notMem_text (c := '%') (by decide) (by decide))
  have ends : ip.text.dropWhile (· != '%') = [] := List.dropWhile_eq_nil_iff.mpr whole
  rw [read?, other]
  dsimp only
  rw [readZoned?, ends, List.takeWhile_eq_self_iff.mpr whole]
  simp [Ipv6.read?_text]

/-- A literal with a percent sign has a zone. -/
theorem zone_of_percent {cs : List Char} {ip : Ipv6} {zone : Option (List Char)}
    (percent : '%' ∈ cs) (read : read? cs = some (.v6 ip zone)) : zone ≠ none := by
  unfold read? at read
  split at read
  · cases read
  · unfold readZoned? at read
    split at read
    · rename_i ends
      have whole := List.dropWhile_eq_nil_iff.mp ends '%' percent
      simp at whole
    · split at read
      · cases read
      · obtain ⟨_, -, same⟩ := Option.map_eq_some_iff.mp read
        cases same
        exact Option.some_ne_none _

end IpLiteral

end SocksTunnel
