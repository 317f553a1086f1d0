import SocksTunnel.Ip.V6
import SocksTunnel.Proofs.Ip.V4

/-!
IPv6 addresses as the system reads them when it is to put them on the wire: in one pass, with the
groups that are complete, the place of `::` among them, and the group under way. It reads the same
texts as `Ipv6.read?`, which looks for `::` first and takes the texts on both sides apart at the
colons, and gives the same groups.

* `readFrom_piece`, `readFrom_last` — the pass over one piece reads a group, or the last piece.
* `readFrom_after` — after `::` the groups of the rest follow, and zeros make up for the others.
* `Ipv6.scan?_eq` — the two readers agree on every text.
-/

namespace SocksTunnel

open SocksTunnel.Text

namespace Ipv6

/-- The state of the pass: the groups that are complete, where among them `::` has been met, the
text from the start of the group under way, and the digits of that group, their number and what
they write. -/
structure Scan where
  groups : List UInt16
  gap : Option Nat
  start : List Char
  count : Nat
  value : Nat

/-- Eight groups at the end of the pass; zeros fill the place of `::`, which stands for one group
at least. -/
def finish (gap : Option Nat) (groups : List UInt16) : Option (List UInt16) :=
  match gap with
  | none => if groups.length = 8 then some groups else none
  | some place =>
      if groups.length = 8 then none
      else some (groups.take place ++ List.replicate (8 - groups.length) 0 ++ groups.drop place)

namespace Scan

/-- Read on. -/
def run : Scan → List Char → Option (List UInt16)
  | s, [] =>
      if s.count = 0 then finish s.gap s.groups
      else if s.groups.length < 8 then finish s.gap (s.groups ++ [UInt16.ofNat s.value])
      else none
  | s, c :: cs => match hexValue? c with
    | some d =>
        if s.count = 4 then none
        else run { s with count := s.count + 1, value := 16 * s.value + d } cs
    | none =>
        if c = ':' then
          if s.count = 0 then
            if s.gap.isSome then none
            else run { s with gap := some s.groups.length, start := cs } cs
          else if cs = [] then none
          else if s.groups.length < 8 then
            run ⟨s.groups ++ [UInt16.ofNat s.value], s.gap, cs, 0, 0⟩ cs
          else none
        else if c = '.' ∧ s.groups.length ≤ 6 then
          (Ipv4.scan? s.start).bind fun bytes => finish s.gap (s.groups ++ pairs bytes)
        else none

end Scan

/-- Read on at the start of a group. -/
def readFrom (groups : List UInt16) (gap : Option Nat) (cs : List Char) : Option (List UInt16) :=
  Scan.run ⟨groups, gap, cs, 0, 0⟩ cs

/-- Read the eight groups of an address in one pass. A colon at the front has to be one of two. -/
def scan? : List Char → Option (List UInt16)
  | [] => none
  | ':' :: ':' :: rest => readFrom [] none (':' :: rest)
  | ':' :: _ => none
  | cs => readFrom [] none cs

/-! ### One piece -/

/-- A number, continued with further digits. -/
def grown (n : Nat) (cs : List Char) : Nat :=
  cs.foldl (fun n c => 16 * n + (hexValue? c).getD 0) n

/-- Whether all characters are hexadecimal digits. -/
def isHex (cs : List Char) : Bool := cs.all fun c => (hexValue? c).isSome

theorem mapM_hexValue? (cs : List Char) :
    cs.mapM hexValue? = if isHex cs then some (cs.map fun c => (hexValue? c).getD 0) else none := by
  induction cs with
  | nil => rfl
  | cons c cs ih =>
      rw [List.mapM_cons, ih]
      cases digit : hexValue? c with
      | none => simp [isHex, digit]
      | some d => cases rest : isHex cs <;> simp_all [isHex]

theorem readGroup?_eq {cs : List Char} (some' : cs ≠ []) :
    readGroup? cs =
      if isHex cs ∧ cs.length ≤ 4 then some (UInt16.ofNat (grown 0 cs)) else none := by
  rw [readGroup?, mapM_hexValue?]
  by_cases short : cs.length ≤ 4
  · cases digits : isHex cs <;> simp [some', short, grown, List.foldl_map]
  · simp [short, Nat.lt_of_not_le short]

theorem readGroup?_nil : readGroup? [] = none := rfl

theorem hexValue?_colon : hexValue? ':' = none := by decide

theorem hexValue?_point : hexValue? '.' = none := by decide

/-- Characters that end no group are read as digits, as long as there are four at most. -/
theorem run_word {s : Scan} (room : s.count ≤ 4) {word : List Char} (colon : ':' ∉ word)
    (point : '.' ∉ word) (rest : List Char) :
    s.run (word ++ rest) =
      if isHex word ∧ s.count + word.length ≤ 4 then
        Scan.run { s with count := s.count + word.length, value := grown s.value word } rest
      else none := by
  induction word generalizing s with
  | nil => simp [isHex, grown, room]
  | cons c word ih =>
      obtain ⟨noColon, colon⟩ := not_or.mp (mt List.mem_cons.mpr colon)
      obtain ⟨noPoint, point⟩ := not_or.mp (mt List.mem_cons.mpr point)
      rw [List.cons_append, Scan.run]
      cases digit : hexValue? c with
      | none => simp [isHex, digit, Ne.symm noColon, Ne.symm noPoint]
      | some d =>
          by_cases full : s.count = 4
          · have many : ¬ 4 + (c :: word).length ≤ 4 := by
              rw [List.length_cons]
              omega
            simp only [full, if_true]
            rw [if_neg fun fits => many fits.2]
          · simp only [full, if_false]
            rw [ih (by simp only; omega) colon point]
            have sum : s.count + 1 + word.length = s.count + (word.length + 1) := by omega
            simp [isHex, grown, digit, sum]

theorem isHex_of_plain {cs : List Char} (plain : ∀ c ∈ cs, isPlainDigit c = true) :
    isHex cs = true := by
  rw [isHex, List.all_eq_true]
  intro c mem
  have digit := plain c mem
  rw [isPlainDigit, Bool.and_eq_true, decide_eq_true_eq, decide_eq_true_eq] at digit
  rw [hexValue?, if_pos digit]
  rfl

/-- No group holds a point. -/
theorem readGroup?_point (front back : List Char) : readGroup? (front ++ '.' :: back) = none := by
  rw [readGroup?_eq (by simp), if_neg]
  rintro ⟨digits, -⟩
  simp [isHex, hexValue?_point] at digits

/-- At the first point of a text the rest of it, from the start of the group on, has to be an IPv4
address. -/
theorem readFrom_point {groups : List UInt16} (gap : Option Nat) {front : List Char}
    (colon : ':' ∉ front) (point : '.' ∉ front) (back : List Char) :
    readFrom groups gap (front ++ '.' :: back) =
      if groups.length ≤ 6 then (Ipv4.read? (front ++ '.' :: back)).bind fun ip =>
        finish gap (groups ++ [groupOf ip.first ip.second, groupOf ip.third ip.fourth])
      else none := by
  rw [readFrom, run_word (Nat.zero_le 4) colon point]
  by_cases digits : isHex front ∧ 0 + front.length ≤ 4
  · rw [if_pos digits, Scan.run, hexValue?_point]
    by_cases room : groups.length ≤ 6
    · simp only [room, Ipv4.scan?_eq]
      cases Ipv4.read? (front ++ '.' :: back) with
      | none => simp
      | some ip => simp [Ipv4.bytes, pairs]
    · simp [room]
  · have first : Ipv4.readByte? front = none := by
      cases read : Ipv4.readByte? front with
      | none => rfl
      | some b =>
          obtain ⟨short, plain⟩ := Ipv4.readByte?_digits read
          exact absurd ⟨isHex_of_plain plain, by omega⟩ digits
    rw [if_neg digits, Ipv4.read?_eq_none_of_first point first]
    simp

/-- A piece with a colon after it is read as a group; the text does not end with that colon. -/
theorem readFrom_piece {groups : List UInt16} (gap : Option Nat) {piece : List Char}
    (whole : ':' ∉ piece) (nonempty : piece ≠ []) (rest : List Char) :
    readFrom groups gap (piece ++ ':' :: rest) =
      if rest = [] then none
      else (readGroup? piece).bind fun g =>
        if groups.length < 8 then readFrom (groups ++ [g]) gap rest else none := by
  by_cases dotted : '.' ∈ piece
  · obtain ⟨front, back, rfl, point⟩ := List.eq_append_cons_of_mem dotted
    have colon : ':' ∉ front := fun mem => whole (List.mem_append_left _ mem)
    have absent : Ipv4.read? (front ++ '.' :: (back ++ ':' :: rest)) = none :=
      Ipv4.read?_eq_none_of_mem (c := ':') (by simp) (by decide) (by decide)
    rw [readGroup?_point, List.append_assoc, List.cons_append, readFrom_point gap colon point,
      absent]
    simp
  · rw [readFrom, run_word (Nat.zero_le 4) whole dotted, readGroup?_eq nonempty]
    by_cases digits : isHex piece ∧ piece.length ≤ 4
    · simp [digits, Scan.run, hexValue?_colon, nonempty, readFrom]
    · simp [digits]

/-- The last piece is read as a group, or as an IPv4 address. -/
theorem readFrom_last {groups : List UInt16} (gap : Option Nat) {piece : List Char}
    (whole : ':' ∉ piece) (nonempty : piece ≠ []) :
    readFrom groups gap piece = (readLast? piece).bind fun gs =>
      if groups.length + gs.length ≤ 8 then finish gap (groups ++ gs) else none := by
  by_cases dotted : '.' ∈ piece
  · obtain ⟨front, back, rfl, point⟩ := List.eq_append_cons_of_mem dotted
    have colon : ':' ∉ front := fun mem => whole (List.mem_append_left _ mem)
    rw [readFrom_point gap colon point]
    cases read : Ipv4.read? (front ++ '.' :: back) with
    | none => simp [readLast?, read]
    | some ip =>
        have room : groups.length + 2 ≤ 8 ↔ groups.length ≤ 6 := by omega
        simp [readLast?, read, room]
  · have pass := run_word (s := ⟨groups, gap, piece, 0, 0⟩) (Nat.zero_le 4) whole dotted []
    rw [List.append_nil] at pass
    rw [readFrom, pass]
    by_cases digits : isHex piece ∧ piece.length ≤ 4
    · have room : groups.length + 1 ≤ 8 ↔ groups.length < 8 := by omega
      simp [readLast?, dotted, readGroup?_eq nonempty, digits, Scan.run, nonempty, room]
    · simp [readLast?, dotted, readGroup?_eq nonempty, digits]

theorem readFrom_nil (groups : List UInt16) (gap : Option Nat) :
    readFrom groups gap [] = finish gap groups := rfl

/-- A colon at the start of a group is the second of two; there is no other place like that. -/
theorem readFrom_colon (groups : List UInt16) (gap : Option Nat) (rest : List Char) :
    readFrom groups gap (':' :: rest) =
      if gap.isSome then none else readFrom groups (some groups.length) rest := by
  simp [readFrom, Scan.run, hexValue?_colon]

/-! ### The pieces of a text -/

theorem readGroups?_piece (dotted : Bool) {piece : List Char} (whole : ':' ∉ piece)
    (rest : List Char) :
    readGroups? dotted (piece ++ ':' :: rest) = (readGroup? piece).bind fun g =>
      (if rest = [] then none else readGroups? dotted rest).map (g :: ·) := by
  have nonempty : (piece ++ ':' :: rest).isEmpty = false := by simp
  rw [readGroups?, nonempty, List.splitOn_append_cons_self_of_not_mem whole]
  by_cases ended : rest = []
  · cases dotted <;> simp [ended, readPieces?, readLast?, readGroup?_nil]
  · have pieces : readGroups? dotted rest = readPieces? dotted (rest.splitOn ':') := by
      simp [readGroups?, ended]
    rw [if_neg ended, pieces]
    cases cut : rest.splitOn ':' with
    | nil => exact absurd cut (List.splitOn_ne_nil _ _)
    | cons first others =>
        cases read : readPieces? dotted (first :: others) <;> simp [readPieces?, read]

theorem readGroups?_last {piece : List Char} (whole : ':' ∉ piece) (nonempty : piece ≠ []) :
    readGroups? true piece = readLast? piece := by
  simp [readGroups?, nonempty, List.splitOn_eq_singleton whole, readPieces?]

theorem readGroups?_single {piece : List Char} (whole : ':' ∉ piece) (nonempty : piece ≠ []) :
    readGroups? false piece = (readGroup? piece).map ([·]) := by
  simp [readGroups?, nonempty, List.splitOn_eq_singleton whole, readPieces?]

/-- After the two colons no piece is empty, and the groups that are read there end the address. -/
theorem readFrom_after {groups : List UInt16} (room : groups.length ≤ 8) (place : Nat)
    (cs : List Char) :
    readFrom groups (some place) cs = (readGroups? true cs).bind fun gs =>
      if groups.length + gs.length ≤ 8 then finish (some place) (groups ++ gs) else none := by
  induction cs using pieces_induction ':' generalizing groups with
  | last piece whole =>
      by_cases empty : piece = []
      · subst empty
        simp [readGroups?, readFrom_nil, room]
      · rw [readFrom_last _ whole empty, readGroups?_last whole empty]
  | next piece rest whole ih =>
      rw [readGroups?_piece true whole]
      by_cases empty : piece = []
      · subst empty
        simp [readFrom_colon, readGroup?_nil]
      · rw [readFrom_piece _ whole empty]
        by_cases ended : rest = []
        · simp [ended]
        · simp only [ended, if_false]
          cases readGroup? piece with
          | none => rfl
          | some g =>
              by_cases full : groups.length < 8
              · simp only [full, if_true, Option.bind_some]
                rw [ih (by simp; omega)]
                cases readGroups? true rest with
                | none => rfl
                | some gs =>
                    have sum : groups.length + 1 + gs.length = groups.length + (gs.length + 1) := by
                      omega
                    simp [sum]
              · have many (n : Nat) : ¬ groups.length + (n + 1) ≤ 8 := by omega
                cases readGroups? true rest <;> simp [full, many]

/-- Two colons stand for one group at least. -/
theorem finish_some (place : Nat) {groups : List UInt16} {n : Nat} (count : groups.length = n) :
    (if n ≤ 8 then finish (some place) groups else none) =
      if n < 8 then finish (some place) groups else none := by
  by_cases exact : n = 8
  · simp [exact, finish, count]
  · have same : n ≤ 8 ↔ n < 8 := by omega
    simp [same]

/-- The second of two colons puts the place of the zeros behind the groups that are there. -/
theorem readFrom_gap {groups : List UInt16} (room : groups.length ≤ 8) (rest : List Char) :
    readFrom groups none (':' :: rest) = (readGroups? true rest).bind fun right =>
      if groups.length + right.length < 8 then finish (some groups.length) (groups ++ right)
      else none := by
  rw [readFrom_colon, Option.isSome_none, if_neg Bool.false_ne_true, readFrom_after room]
  cases readGroups? true rest with
  | none => rfl
  | some right => exact finish_some groups.length List.length_append

/-! ### The first two colons -/

/-- Characters other than colons come before the two colons. -/
theorem splitGap?_append {front : List Char} (whole : ':' ∉ front) (cs : List Char) :
    splitGap? (front ++ cs) =
      (splitGap? cs).map fun (before, after) => (front ++ before, after) := by
  induction front with
  | nil =>
      rw [List.nil_append]
      cases splitGap? cs <;> rfl
  | cons c front ih =>
      obtain ⟨other, whole⟩ := not_or.mp (mt List.mem_cons.mpr whole)
      simp [splitGap?, ih whole, Ne.symm other, Function.comp_def]

theorem splitGap?_of_not_mem {piece : List Char} (whole : ':' ∉ piece) :
    splitGap? piece = none := by
  have split := splitGap?_append whole []
  rwa [List.append_nil] at split

theorem splitGap?_here {piece : List Char} (whole : ':' ∉ piece) (rest : List Char) :
    splitGap? (piece ++ ':' :: ':' :: rest) = some (piece, rest) := by
  simp [splitGap?_append whole, splitGap?]

theorem splitGap?_later {piece : List Char} (whole : ':' ∉ piece) {rest : List Char}
    (single : rest.head? ≠ some ':') :
    splitGap? (piece ++ ':' :: rest) =
      (splitGap? rest).map fun (before, after) => (piece ++ ':' :: before, after) := by
  have colon : splitGap? (':' :: rest) =
      (splitGap? rest).map fun (before, after) => (':' :: before, after) := by
    cases rest with
    | nil => rfl
    | cons c rest =>
        have other : c ≠ ':' := fun same => single (same ▸ rfl)
        rw [splitGap?]
        simpa using other
  rw [splitGap?_append whole, colon, Option.map_map]
  rfl

/-- Groups, and what a text adds to them. -/
def readBehind (groups : List UInt16) (cs : List Char) : Option (List UInt16) :=
  match splitGap? cs with
  | none => (readGroups? true cs).bind fun gs => finish none (groups ++ gs)
  | some (before, after) => (readGroups? false before).bind fun left =>
      (readGroups? true after).bind fun right =>
        if groups.length + left.length + right.length < 8 then
          finish (some (groups.length + left.length)) (groups ++ left ++ right)
        else none

theorem readBehind_full {groups : List UInt16} (full : 8 < groups.length) (cs : List Char) :
    readBehind groups cs = none := by
  unfold readBehind
  split
  · cases readGroups? true cs with
    | none => rfl
    | some gs =>
        have many : groups.length + gs.length ≠ 8 := by omega
        simp [finish, many]
  · rename_i before after _
    cases readGroups? false before with
    | none => rfl
    | some left =>
        have many (n : Nat) : ¬ groups.length + left.length + n < 8 := by omega
        cases readGroups? true after <;> simp [many]

/-- A piece with one colon after it adds its group. -/
theorem readBehind_piece (groups : List UInt16) {piece : List Char} (whole : ':' ∉ piece) {c : Char}
    (single : c ≠ ':') (rest : List Char) :
    readBehind groups (piece ++ ':' :: c :: rest) =
      (readGroup? piece).bind fun g => readBehind (groups ++ [g]) (c :: rest) := by
  have head : (c :: rest).head? ≠ some ':' := by simpa using single
  rw [readBehind, splitGap?_later whole head]
  cases split : splitGap? (c :: rest) with
  | none =>
      rw [Option.map_none]
      simp only [readGroups?_piece true whole, readBehind, split]
      cases readGroup? piece with
      | none => rfl
      | some g => cases readGroups? true (c :: rest) <;> simp
  | some parts =>
      obtain ⟨before, after⟩ := parts
      have begun : before ≠ [] := by
        rintro rfl
        simp [splitGap?, single] at split
      rw [Option.map_some]
      simp only [readGroups?_piece false whole, readBehind, split, begun, if_false]
      cases readGroup? piece with
      | none => rfl
      | some g =>
          cases readGroups? false before with
          | none => rfl
          | some left =>
              have sum : groups.length + (left.length + 1) = groups.length + 1 + left.length := by
                omega
              simp [sum]

/-- A piece with two colons after it is the last one before them. -/
theorem readBehind_double (groups : List UInt16) {piece : List Char} (whole : ':' ∉ piece)
    (nonempty : piece ≠ []) (rest : List Char) :
    readBehind groups (piece ++ ':' :: ':' :: rest) =
      (readGroup? piece).bind fun g => (readGroups? true rest).bind fun right =>
        if (groups ++ [g]).length + right.length < 8 then
          finish (some (groups ++ [g]).length) (groups ++ [g] ++ right)
        else none := by
  rw [readBehind, splitGap?_here whole]
  simp only [readGroups?_single whole nonempty, List.length_append, List.length_singleton]
  cases readGroup? piece <;> rfl

/-- Up to the two colons no piece is empty. -/
theorem readFrom_before {groups : List UInt16} (room : groups.length ≤ 8) {cs : List Char}
    (nonempty : cs ≠ []) (single : cs.head? ≠ some ':') :
    readFrom groups none cs = readBehind groups cs := by
  induction cs using pieces_induction ':' generalizing groups with
  | last piece whole =>
      rw [readFrom_last _ whole nonempty, readBehind, splitGap?_of_not_mem whole,
        readGroups?_last whole nonempty]
      cases readLast? piece with
      | none => rfl
      | some gs =>
          by_cases fits : groups.length + gs.length ≤ 8
          · simp [fits]
          · have many : groups.length + gs.length ≠ 8 := by omega
            simp [fits, finish, many]
  | next piece rest whole ih =>
      have begun : piece ≠ [] := by
        rintro rfl
        exact single rfl
      rw [readFrom_piece _ whole begun]
      rcases rest with _ | ⟨c, rest⟩
      · rw [readBehind, splitGap?_later whole (by simp), splitGap?, Option.map_none]
        simp [readGroups?_piece true whole]
      rw [if_neg (List.cons_ne_nil c rest)]
      by_cases double : c = ':'
      · subst double
        rw [readBehind_double groups whole begun]
        cases readGroup? piece with
        | none => rfl
        | some g =>
            have one : (groups ++ [g]).length = groups.length + 1 := by simp
            by_cases full : groups.length < 8
            · rw [Option.bind_some, if_pos full, readFrom_gap (one ▸ full)]
              rfl
            · have many (n : Nat) : ¬ groups.length + 1 + n < 8 := by omega
              cases readGroups? true rest <;> simp [full, many]
      · rw [readBehind_piece groups whole double]
        cases readGroup? piece with
        | none => rfl
        | some g =>
            by_cases full : groups.length < 8
            · simp only [full, if_true, Option.bind_some]
              exact ih (by simp; omega) (List.cons_ne_nil c rest) (by simpa using double)
            · have many : 8 < (groups ++ [g]).length := by simp; omega
              simp [full, readBehind_full many]

/-! ### Addresses -/

theorem ofGroups?_groups (gs : List UInt16) : (ofGroups? gs).map groups = finish none gs := by
  unfold ofGroups? finish
  split <;> simp_all

/-- What is read behind no groups is the address. -/
theorem read?_groups (cs : List Char) : (read? cs).map groups = readBehind [] cs := by
  unfold read? readBehind
  cases splitGap? cs with
  | none => cases readGroups? true cs <;> simp [ofGroups?_groups]
  | some parts =>
      obtain ⟨before, after⟩ := parts
      cases l : readGroups? false before with
      | none => simp [l]
      | some left =>
          cases r : readGroups? true after with
          | none => simp [l, r]
          | some right =>
              by_cases few : left.length + right.length < 8
              · have filled :
                    left.length + (8 - (left.length + right.length) + right.length) = 8 := by omega
                simp [l, r, few, Nat.ne_of_lt few, ofGroups?_groups, finish, filled]
              · simp [l, r, few]

/-- A text that begins with a single colon is no address. -/
theorem read?_of_colon {cs : List Char} (single : cs.head? ≠ some ':') :
    read? (':' :: cs) = none := by
  have absent : ':' ∉ ([] : List Char) := List.not_mem_nil
  have later := splitGap?_later absent single
  have pieces (dotted : Bool) (rest : List Char) : readGroups? dotted (':' :: rest) = none :=
    readGroups?_piece dotted absent rest
  rw [List.nil_append] at later
  rw [read?, later]
  cases splitGap? cs with
  | none => simp [pieces]
  | some parts => simp [pieces]

/-- Both readers give the same groups for the same texts. -/
theorem scan?_eq (cs : List Char) : scan? cs = (read? cs).map groups := by
  have room : ([] : List UInt16).length ≤ 8 := Nat.zero_le 8
  rcases cs with _ | ⟨c, cs⟩
  · rfl
  by_cases colon : c = ':'
  · subst colon
    rcases cs with _ | ⟨d, rest⟩
    · rfl
    by_cases double : d = ':'
    · subst double
      have none' : readGroups? false [] = some [] := rfl
      rw [scan?, readFrom_gap room, read?_groups, readBehind, splitGap?]
      simp [none']
    · rw [read?_of_colon (by simpa using double)]
      simp [scan?, double]
  · have pass := readFrom_before room (List.cons_ne_nil c cs) (by simpa using colon)
    rw [read?_groups, ← pass]
    simp [scan?, colon]

end Ipv6

end SocksTunnel
