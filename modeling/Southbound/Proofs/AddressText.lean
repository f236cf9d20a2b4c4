import Southbound.Address.Printer
import Southbound.Address.Reader
import Southbound.Proofs.Numeral

/-!
# Addresses as they are written and read

The colon form leaves much to the writer: a run of zeros may be left out, two groups may be shown
dotted, and the reader, which tries a dotted form wherever one could stand, has to find its way
back from the text alone.  `read?_render` says that it does so for every address.

The readers are tidy for the characters of an address (`tidy_readV4`, `tidy_readV6`): they take
nothing else off a text, and what follows, a bracket, a zone or the end, makes no difference.  So
each form is read piece by piece: octets and groups first, then a row of groups
(`readGroups_groupText`), which ends where no further group begins (`Halts`), then the two rows
around a double colon (`readV6_doubleColon`), then the three ways in which an address is written.

An endpoint is a host part, a colon and a port.  `readEndpoint?_eq_some` says which host parts there
are: what is read as an address, in brackets where it is a colon form, and besides a colon form with
a zone.
-/

namespace Southbound.Address

open Southbound.Text

/-! ## The characters of an address -/

/-- The characters that the dotted form is made of. -/
def isDotted (c : Char) : Bool := isDigitIn 10 c || c == '.'

/-- The characters that addresses are made of. -/
def isAddressChar (c : Char) : Bool := isDigitIn 16 c || c == '.' || c == ':'

theorem isDigitIn_sixteen {c : Char} (h : isDigitIn 10 c = true) : isDigitIn 16 c = true := by
  simp only [isDigitIn, Option.any_eq_true, decide_eq_true_eq] at h ⊢
  obtain ⟨d, digit, below⟩ := h
  exact ⟨d, digit, by omega⟩

theorem isDotted_of_digit (c : Char) (h : isDigitIn 10 c = true) : isDotted c = true := by
  simp [isDotted, h]

theorem isAddressChar_of_digit (c : Char) (h : isDigitIn 16 c = true) :
    isAddressChar c = true := by
  simp [isAddressChar, h]

theorem isAddressChar_of_dotted (c : Char) (h : isDotted c = true) : isAddressChar c = true := by
  rcases Bool.or_eq_true_iff.1 h with digit | point
  · exact isAddressChar_of_digit c (isDigitIn_sixteen digit)
  · simp [isAddressChar, point]

/-! ## Tidiness -/

theorem expect_eq_some {c : Char} {cs rest : List Char} :
    expect c cs = some rest ↔ cs = c :: rest := by
  cases cs with
  | nil => simp [expect]
  | cons d cs =>
    by_cases same : d = c
    · simp [expect, same]
    · simp [expect, same]

@[simp] theorem expect_cons (c : Char) (cs : List Char) : expect c (c :: cs) = some cs :=
  expect_eq_some.2 rfl

theorem expect_of_stops {p : Char → Bool} {c : Char} (hc : p c = true) {cs : List Char}
    (stops : Stops p cs) : expect c cs = none := by
  cases cs with
  | nil => rfl
  | cons d cs =>
    have : d ≠ c := by
      rintro rfl
      exact Bool.noConfusion (hc.symm.trans (stops_cons.1 stops))
    simp [expect, this]

theorem tidy_expect_bind {α : Type} {p : Char → Bool} {c : Char} (hc : p c = true)
    {next : List Char → Option (α × List Char)} (h : Tidy p next) :
    Tidy p fun cs => expect c cs >>= next where
  takes {cs a rest} got := by
    obtain ⟨between, got₁, got₂⟩ := Option.bind_eq_some_iff.1 got
    obtain rfl := expect_eq_some.1 got₁
    obtain ⟨front, rfl, taken⟩ := h.takes got₂
    exact ⟨c :: front, rfl, List.forall_mem_cons.2 ⟨hc, taken⟩⟩
  frame {rest} stops cs := by
    cases cs with
    | nil =>
      rw [List.nil_append, expect_of_stops hc stops]
      rfl
    | cons d cs =>
      by_cases same : d = c
      · subst same
        simpa using h.frame stops cs
      · simp [expect, same]

theorem tidy_readOctet : Tidy (isDigitIn 10) readOctet :=
  (tidy_readNumeral ⟨10, some 3, false, 255⟩).map UInt8.ofNat

theorem tidy_readGroup : Tidy (isDigitIn 16) readGroup :=
  (tidy_readNumeral ⟨16, some 4, true, 0xFFFF⟩).map UInt16.ofNat

theorem tidy_readV4 : Tidy isDotted readV4 := by
  have octet : Tidy isDotted readOctet := tidy_readOctet.mono isDotted_of_digit
  refine octet.bind fun a => ?_
  refine tidy_expect_bind rfl (octet.bind fun b => ?_)
  refine tidy_expect_bind rfl (octet.bind fun c => ?_)
  refine tidy_expect_bind rfl (octet.bind fun d => ?_)
  exact Tidy.some _

/-- A reader behind the colon that stands before every piece but the first. -/
theorem tidy_skipColon_bind {α : Type} (first : Bool) {next : List Char → Option (α × List Char)}
    (h : Tidy isAddressChar next) : Tidy isAddressChar fun cs => skipColon first cs >>= next := by
  cases first with
  | true => exact h
  | false => exact tidy_expect_bind rfl h

/-- `readGroups` as a reader like the others. -/
def takeGroups (room : Nat) (first : Bool) (cs : List Char) :
    Option ((List UInt16 × Bool) × List Char) :=
  let (groups, dotted, rest) := readGroups room first cs
  some ((groups, dotted), rest)

theorem takeGroups_succ (room : Nat) (first : Bool) (cs : List Char) :
    takeGroups (room + 1) first cs =
      ((if room = 0 then none else skipColon first cs >>= readV4).map
          fun (octets, rest) => ((groupsOfOctets octets, true), rest)).or
        ((skipColon first cs >>= readGroup >>= fun (group, rest) =>
            (takeGroups room false rest).map
              fun ((groups, dotted), rest) => ((group :: groups, dotted), rest)).or
          (some (([], false), cs))) := by
  rw [takeGroups, readGroups]
  cases if room = 0 then none else skipColon first cs >>= readV4 with
  | some octets => rfl
  | none =>
    cases skipColon first cs >>= readGroup with
    | some group => rfl
    | none => rfl

theorem tidy_takeGroups (room : Nat) (first : Bool) :
    Tidy isAddressChar (takeGroups room first) := by
  induction room generalizing first with
  | zero => exact Tidy.some _
  | succ room ih =>
    rw [funext (takeGroups_succ room first)]
    refine .or ?dotted (.or ?group (.some _))
    case dotted =>
      refine .map (fun octets => (groupsOfOctets octets, true)) ?_
      refine .ite (room = 0) .none (tidy_skipColon_bind first ?_)
      exact tidy_readV4.mono isAddressChar_of_dotted
    case group =>
      refine .bind (tidy_skipColon_bind first (tidy_readGroup.mono isAddressChar_of_digit)) ?_
      exact fun group => (ih false).map fun read => (group :: read.1, read.2)

theorem readV6_eq (cs : List Char) :
    readV6 cs = takeGroups 8 true cs >>= fun ((head, dotted), cs) =>
      if head.length = 8 then ofGroups head >>= fun groups => some (groups, cs)
      else if dotted then none
      else expect ':' cs >>= fun cs => expect ':' cs >>= fun cs =>
        takeGroups (7 - head.length) true cs >>= fun ((tail, _), cs) =>
          ofGroups (head ++ List.replicate (8 - head.length - tail.length) 0 ++ tail)
            >>= fun groups => some (groups, cs) :=
  rfl

theorem tidy_readV6 : Tidy isAddressChar readV6 := by
  rw [funext readV6_eq]
  refine (tidy_takeGroups 8 true).bind fun (head, dotted) => ?_
  refine .ite (head.length = 8) (.ofOption _) (.ite (dotted = true) .none ?_)
  refine tidy_expect_bind rfl (tidy_expect_bind rfl ?_)
  exact (tidy_takeGroups (7 - head.length) true).bind fun tail => .ofOption _

/-! ## The dotted form -/

theorem readOctet_decimal (octet : UInt8) {rest : List Char} (stops : Stops (isDigitIn 10) rest) :
    readOctet (decimal octet.toNat ++ rest) = some (octet, rest) := by
  have below : octet.toNat < 256 := octet.toNat_lt
  have read := readNumeral_toDigits ⟨10, some 3, false, 255⟩ (Nat.le_of_ble_eq_true rfl)
    (Nat.le_of_ble_eq_true rfl) (Nat.le_of_lt_succ below) (by simp; omega) stops
  simp [readOctet, decimal, read]

theorem renderOctets_four (a b c d : UInt8) :
    renderOctets [a, b, c, d] =
      decimal a.toNat ++ '.' :: (decimal b.toNat ++ '.' :: (decimal c.toNat ++
        '.' :: decimal d.toNat)) := by
  simp [renderOctets, List.intercalate, List.intersperse]

theorem readV4_renderOctets (a b c d : UInt8) {rest : List Char}
    (stops : Stops (isDigitIn 10) rest) :
    readV4 (renderOctets [a, b, c, d] ++ rest) = some (#v[a, b, c, d], rest) := by
  have point : ∀ cs, Stops (isDigitIn 10) ('.' :: cs) := fun cs => stops_cons.2 rfl
  simp only [readV4, renderOctets_four, List.append_assoc, List.cons_append,
    readOctet_decimal _ (point _), readOctet_decimal d stops, expect_cons, Option.bind_eq_bind,
    Option.bind_some]

/-- What is read as a dotted form has a point. -/
theorem mem_of_readV4 {cs rest : List Char} {octets : Vector UInt8 4}
    (read : readV4 cs = some (octets, rest)) : '.' ∈ cs := by
  obtain ⟨⟨a, behind⟩, first, others⟩ := Option.bind_eq_some_iff.1 read
  obtain ⟨front, rfl, -⟩ := tidy_readOctet.takes first
  obtain ⟨_, point, -⟩ := Option.bind_eq_some_iff.1 others
  rw [expect_eq_some.1 point]
  simp

theorem readV4_of_stops {cs : List Char} (stops : Stops (isDigitIn 10) cs) : readV4 cs = none := by
  have none : readOctet cs = none := by
    rw [readOctet, readNumeral_of_stops stops, Option.map_none]
  rw [readV4, none]
  rfl

/-! ## Groups -/

theorem readGroup_hexadecimal (group : UInt16) {rest : List Char}
    (stops : Stops (isDigitIn 16) rest) :
    readGroup (hexadecimal group.toNat ++ rest) = some (group, rest) := by
  have below : group.toNat < 65536 := group.toNat_lt
  have read := readNumeral_toDigits ⟨16, some 4, true, 0xFFFF⟩ (Nat.le_of_ble_eq_true rfl)
    (Nat.le_of_ble_eq_true rfl) (Nat.le_of_lt_succ below) (by simp; omega) stops
  simp [readGroup, hexadecimal, read]

theorem readGroup_of_stops {cs : List Char} (stops : Stops (isDigitIn 16) cs) :
    readGroup cs = none := by
  rw [readGroup, readNumeral_of_stops stops, Option.map_none]

/-- A group is not mistaken for the first octet of a dotted form. -/
theorem readV4_hexadecimal (n : Nat) {rest : List Char} (stops : Stops isDotted rest) :
    readV4 (hexadecimal n ++ rest) = none := by
  have none : readV4 (hexadecimal n) = none := by
    rw [Option.eq_none_iff_forall_ne_some]
    rintro ⟨octets, more⟩ read
    have digits := isDigitIn_of_mem_toDigits (by decide : 1 < 16) (by decide) n
    exact absurd (digits '.' (mem_of_readV4 read)) (by decide)
  rw [tidy_readV4.frame stops, none, Option.map_none]

/-- Groups that go on behind others. -/
def trail (groups : List UInt16) : List Char :=
  groups.flatMap fun g => ':' :: hexadecimal g.toNat

theorem renderGroups_cons (g : UInt16) (groups : List UInt16) :
    renderGroups (g :: groups) = hexadecimal g.toNat ++ trail groups := by
  induction groups generalizing g with
  | nil => simp [renderGroups, trail, List.intercalate]
  | cons g' groups ih =>
    have next := ih g'
    simp only [renderGroups, List.map_cons, List.intercalate, List.intersperse_cons_cons,
      List.flatten_cons] at next ⊢
    simp [next, trail]

/-- The text of groups, the first of which stands at the start or behind another. -/
def groupText (first : Bool) (groups : List UInt16) : List Char :=
  if first then renderGroups groups else trail groups

/-- No further group begins here. -/
structure Halts (first : Bool) (rest : List Char) : Prop where
  dotted : skipColon first rest >>= readV4 = none
  group : skipColon first rest >>= readGroup = none

theorem halts_of_stops {rest : List Char} (stops : Stops isAddressChar rest) (first : Bool) :
    Halts first rest := by
  have digits : Stops (isDigitIn 16) rest := stops.mono isAddressChar_of_digit
  cases first with
  | true =>
    exact ⟨readV4_of_stops (digits.mono fun _ => isDigitIn_sixteen), readGroup_of_stops digits⟩
  | false =>
    have none : skipColon false rest = none := expect_of_stops (by decide : isAddressChar ':') stops
    exact ⟨by rw [none]; rfl, by rw [none]; rfl⟩

theorem halts_doubleColon (first : Bool) (rest : List Char) : Halts first (':' :: ':' :: rest) := by
  have dotted : ∀ cs, readV4 (':' :: cs) = none := fun cs => readV4_of_stops (stops_cons.2 rfl)
  have group : ∀ cs, readGroup (':' :: cs) = none := fun cs => readGroup_of_stops (stops_cons.2 rfl)
  cases first with
  | true => exact ⟨dotted (':' :: rest), group (':' :: rest)⟩
  | false => exact ⟨dotted rest, group rest⟩

/-- Groups are read as they are written, as far as there is room for them. -/
theorem readGroups_groupText {room : Nat} {first : Bool} {groups : List UInt16} {rest : List Char}
    (fits : groups.length ≤ room) (apart : Stops (isDigitIn 16) rest)
    (undotted : Stops isDotted rest)
    (ends : groups.length = room ∨ Halts (first && groups.isEmpty) rest) :
    readGroups room first (groupText first groups ++ rest) = (groups, false, rest) := by
  induction groups generalizing room first with
  | nil =>
    have empty : groupText first [] = [] := by cases first <;> rfl
    rw [empty, List.nil_append]
    cases room with
    | zero => rfl
    | succ room =>
      have halts : Halts first rest := by simpa using ends
      simp [readGroups, halts.dotted, halts.group]
  | cons g groups ih =>
    obtain ⟨room, rfl⟩ : ∃ n, room = n + 1 :=
      Nat.exists_eq_add_one.2 (Nat.lt_of_lt_of_le (by simp) fits)
    have skipped : skipColon first (groupText first (g :: groups) ++ rest)
        = some (hexadecimal g.toNat ++ (trail groups ++ rest)) := by
      cases first with
      | true => simp [skipColon, groupText, renderGroups_cons]
      | false => simp [skipColon, groupText, trail]
    have behind : Stops (isDigitIn 16) (trail groups ++ rest)
        ∧ Stops isDotted (trail groups ++ rest) := by
      cases groups with
      | nil => exact ⟨apart, undotted⟩
      | cons g' groups => exact ⟨stops_cons.2 rfl, stops_cons.2 rfl⟩
    have rest_read : readGroups room false (trail groups ++ rest) = (groups, false, rest) := by
      refine ih (Nat.le_of_succ_le_succ fits) ?_
      simpa using ends
    simp [readGroups, skipped, readV4_hexadecimal _ behind.2, readGroup_hexadecimal _ behind.1,
      rest_read]

/-! ## The longest run of zeros -/

theorem longestZeroRun_le (groups : List UInt16) :
    (longestZeroRun groups).2 ≤ zeroRun groups (longestZeroRun groups).1 := by
  refine List.foldlRecOn (motive := fun best : Nat × Nat => best.2 ≤ zeroRun groups best.1)
    _ _ ?_ ?_
  · exact Nat.zero_le _
  · intro best held start _
    split
    · exact Nat.le_refl _
    · exact held

/-- The groups of a run of zeros are zeros. -/
theorem take_drop_zeroRun {groups : List UInt16} {start length : Nat}
    (within : length ≤ zeroRun groups start) :
    (groups.drop start).take length = List.replicate length 0 := by
  have run : (groups.drop start).take length
      = ((groups.drop start).takeWhile (· == 0)).take length := by
    rw [← List.takeWhile_append_dropWhile (p := (· == 0)) (l := groups.drop start),
      List.take_append_of_le_length within]
    simp
  rw [run, List.eq_replicate_iff]
  refine ⟨List.length_take_of_le within, fun g mem => ?_⟩
  simpa using List.mem_takeWhile_imp (List.mem_of_mem_take mem)

/-- The groups before the longest run of zeros, the run and those behind it are all groups. -/
theorem around_longestZeroRun (groups : List UInt16) :
    groups.take (longestZeroRun groups).1 ++ List.replicate (longestZeroRun groups).2 0
      ++ groups.drop ((longestZeroRun groups).1 + (longestZeroRun groups).2) = groups := by
  rw [← take_drop_zeroRun (longestZeroRun_le groups), ← List.drop_drop, List.append_assoc,
    List.take_append_drop, List.take_append_drop]

/-! ## The colon form -/

theorem ofGroups_toList (groups : Vector UInt16 8) : ofGroups groups.toList = some groups := by
  rw [ofGroups, dif_pos groups.length_toList]
  rfl

/-- All eight groups are written. -/
theorem readV6_full (groups : Vector UInt16 8) {rest : List Char}
    (stops : Stops isAddressChar rest) :
    readV6 (renderGroups groups.toList ++ rest) = some (groups, rest) := by
  have read : readGroups 8 true (renderGroups groups.toList ++ rest)
      = (groups.toList, false, rest) :=
    readGroups_groupText (Nat.le_of_eq groups.length_toList) (stops.mono isAddressChar_of_digit)
      (stops.mono isAddressChar_of_dotted) (.inl groups.length_toList)
  simp [readV6, read, ofGroups_toList]

/-- Some groups are written before a double colon, and some are read behind it. -/
theorem readV6_doubleColon {groups : Vector UInt16 8} {head tail : List UInt16} {dotted : Bool}
    {cs rest : List Char} (short : head.length < 8)
    (behind : readGroups (7 - head.length) true cs = (tail, dotted, rest))
    (all : head ++ List.replicate (8 - head.length - tail.length) 0 ++ tail = groups.toList) :
    readV6 (renderGroups head ++ ':' :: ':' :: cs) = some (groups, rest) := by
  have before : readGroups 8 true (renderGroups head ++ ':' :: ':' :: cs)
      = (head, false, ':' :: ':' :: cs) :=
    readGroups_groupText (Nat.le_of_lt short) (stops_cons.2 rfl) (stops_cons.2 rfl)
      (.inr (halts_doubleColon _ _))
  rw [List.append_assoc] at all
  simp [readV6, before, behind, Nat.ne_of_lt short, all, ofGroups_toList]

/-- The two octets of a group make the group again. -/
theorem joinOctets_split (g : UInt16) : joinOctets (g >>> 8).toUInt8 g.toUInt8 = g := by
  have below : g.toNat < 65536 := g.toNat_lt
  have joined := Nat.shiftLeft_add_eq_or_of_lt (Nat.mod_lt g.toNat (by decide : 0 < 2 ^ 8))
    (g.toNat / 2 ^ 8)
  apply UInt16.toNat_inj.1
  calc (joinOctets (g >>> 8).toUInt8 g.toUInt8).toNat
      = (g.toNat / 2 ^ 8 % 2 ^ 8) <<< 8 % 2 ^ 16 ||| g.toNat % 2 ^ 8 := by
        simp [joinOctets, Nat.shiftRight_eq_div_pow]
    _ = (g.toNat / 2 ^ 8) <<< 8 ||| g.toNat % 2 ^ 8 := by
        rw [Nat.shiftLeft_eq, Nat.shiftLeft_eq]
        congr 1
        omega
    _ = g.toNat := by
        rw [← joined, Nat.shiftLeft_eq]
        omega

/-- An address that embeds four octets shows them. -/
theorem readV6_embedded {groups : Vector UInt16 8} {octets : List UInt8} {rest : List Char}
    (embedded : embeddedOctets? groups = some octets) (stops : Stops isAddressChar rest) :
    readV6 ("::ffff:".toList ++ renderOctets octets ++ rest) = some (groups, rest) := by
  obtain ⟨front, shown⟩ := Option.ite_none_right_eq_some.1 embedded
  obtain rfl := Option.some.inj shown
  have digits : Stops (isDigitIn 10) rest :=
    stops.mono fun c digit => isAddressChar_of_digit c (isDigitIn_sixteen digit)
  have dotted := readV4_renderOctets (groups[6] >>> 8).toUInt8 groups[6].toUInt8
    (groups[7] >>> 8).toUInt8 groups[7].toUInt8 digits
  rw [List.append_assoc]
  generalize renderOctets _ ++ rest = text at dotted ⊢
  -- behind the double colon stand one group, a colon and the dotted form
  have ffff : ∀ cs, readGroup ('f' :: 'f' :: 'f' :: 'f' :: ':' :: cs) = some (0xFFFF, ':' :: cs) :=
    fun cs => readGroup_hexadecimal 0xFFFF (stops_cons.2 rfl)
  have undotted : ∀ cs, readV4 ('f' :: 'f' :: 'f' :: 'f' :: ':' :: cs) = none :=
    fun cs => readV4_of_stops (stops_cons.2 rfl)
  have behind : readGroups 7 true ('f' :: 'f' :: 'f' :: 'f' :: ':' :: text)
      = (([0xFFFF, groups[6], groups[7]] : List UInt16), true, rest) := by
    simp [readGroups, skipColon, undotted, ffff, dotted, groupsOfOctets, joinOctets_split]
  have all : groups.toList = ([0, 0, 0, 0, 0, 0xFFFF, groups[6], groups[7]] : List UInt16) := by
    rw [← List.take_append_drop 6 groups.toList, front, List.drop_eq_getElem_cons (by simp),
      List.drop_eq_getElem_cons (by simp), List.drop_of_length_le (by simp)]
    simp
  have read : readV6 (renderGroups [] ++ ':' :: ':' :: 'f' :: 'f' :: 'f' :: 'f' :: ':' :: text)
      = some (groups, rest) := readV6_doubleColon (by decide) behind all.symm
  simpa [renderGroups] using read

/-- A run of zeros is left out. -/
theorem readV6_compressed {groups : Vector UInt16 8} {head tail : List UInt16} {length : Nat}
    {rest : List Char} (long : 1 < length)
    (all : head ++ List.replicate length 0 ++ tail = groups.toList)
    (stops : Stops isAddressChar rest) :
    readV6 (renderGroups head ++ "::".toList ++ renderGroups tail ++ rest)
      = some (groups, rest) := by
  have lengths := congrArg List.length all
  simp only [List.length_append, List.length_replicate, Vector.length_toList] at lengths
  have zeros : 8 - head.length - tail.length = length := by omega
  have behind : readGroups (7 - head.length) true (renderGroups tail ++ rest)
      = (tail, false, rest) :=
    readGroups_groupText (by omega) (stops.mono isAddressChar_of_digit)
      (stops.mono isAddressChar_of_dotted) (.inr (halts_of_stops stops _))
  rw [List.append_assoc, List.append_assoc]
  exact readV6_doubleColon (by omega) behind (by rw [zeros, all])

/-- The colon form is read as the address it was written for. -/
theorem readV6_renderV6 (groups : Vector UInt16 8) {rest : List Char}
    (stops : Stops isAddressChar rest) :
    readV6 (renderV6 groups ++ rest) = some (groups, rest) := by
  rw [renderV6]
  cases embedded : embeddedOctets? groups with
  | some octets => exact readV6_embedded embedded stops
  | none =>
    by_cases long : 1 < (longestZeroRun groups.toList).2
    · simpa [long] using readV6_compressed long (around_longestZeroRun groups.toList) stops
    · simpa [long] using readV6_full groups stops

/-! ## Whole addresses -/

/-- What is read as a colon form is not read as a dotted form, not even in part. -/
theorem readV4_of_readV6 {cs rest : List Char} {groups : Vector UInt16 8}
    (read : readV6 cs = some (groups, rest)) : readV4 cs = none := by
  cases dotted : readV4 cs with
  | none => rfl
  | some octets =>
    -- the reader of groups would stop at the dotted form, with two groups
    have early : readGroups 8 true cs = (groupsOfOctets octets.1, true, octets.2) := by
      simp [readGroups, skipColon, dotted]
    simp [readV6, early, groupsOfOctets] at read

theorem read?_of_readV4 {cs : List Char} {octets : Vector UInt8 4}
    (read : readV4 cs = some (octets, [])) : read? cs = some (v4 octets) := by
  rw [read?, read]
  rfl

theorem read?_of_readV6 {cs : List Char} {groups : Vector UInt16 8}
    (read : readV6 cs = some (groups, [])) : read? cs = some (v6 groups) := by
  rw [read?, readV4_of_readV6 read, read]
  rfl

/-- An address of four bytes, taken apart. -/
theorem exists_octets (octets : Vector UInt8 4) : ∃ a b c d, octets = #v[a, b, c, d] := by
  refine ⟨octets[0], octets[1], octets[2], octets[3], ?_⟩
  ext1 i below
  rcases i with _ | _ | _ | _ | i
  · rfl
  · rfl
  · rfl
  · rfl
  · omega

/-- Every address is read back from its text. -/
theorem read?_render (address : Address) : read? address.render = some address := by
  cases address with
  | v4 octets =>
    obtain ⟨a, b, c, d, rfl⟩ := exists_octets octets
    have read := readV4_renderOctets a b c d stops_nil
    rw [List.append_nil] at read
    exact read?_of_readV4 read
  | v6 groups =>
    have read := readV6_renderV6 groups stops_nil
    rw [List.append_nil] at read
    exact read?_of_readV6 read

theorem whole_eq_some {α : Type} {read : Option (α × List Char)} {a : α} :
    whole read = some a ↔ read = some (a, []) := by
  cases read with
  | none => simp [whole]
  | some read =>
    obtain ⟨b, _ | ⟨c, rest⟩⟩ := read
    · simp [whole]
    · simp [whole]

/-- An address is read in the one form or the other. -/
theorem read?_cases {cs : List Char} {address : Address} (read : read? cs = some address) :
    (∃ octets, address = v4 octets ∧ readV4 cs = some (octets, [])) ∨
      ∃ groups, address = v6 groups ∧ readV6 cs = some (groups, []) := by
  rw [read?, whole_eq_some] at read
  cases dotted : readV4 cs with
  | some octets =>
    simp only [dotted, Option.some.injEq, Prod.mk.injEq] at read
    obtain ⟨rfl, empty⟩ := read
    exact .inl ⟨octets.1, rfl, by rw [← empty]⟩
  | none =>
    simp only [dotted, Option.map_eq_some_iff, Prod.mk.injEq] at read
    obtain ⟨groups, colons, rfl, empty⟩ := read
    exact .inr ⟨groups.1, rfl, by rw [colons, ← empty]⟩

/-- What is read as an address is made of address characters only. -/
theorem isAddressChar_of_read? {cs : List Char} {address : Address}
    (read : read? cs = some address) : ∀ c ∈ cs, isAddressChar c = true := by
  rcases read?_cases read with ⟨octets, -, dotted⟩ | ⟨groups, -, colons⟩
  · obtain ⟨front, rfl, taken⟩ := tidy_readV4.takes dotted
    intro c mem
    exact isAddressChar_of_dotted c (taken c (by simpa using mem))
  · obtain ⟨front, rfl, taken⟩ := tidy_readV6.takes colons
    intro c mem
    exact taken c (by simpa using mem)

/-! ## Endpoints -/

/-- The rule for the number of a zone. -/
def zoneRule : NumeralRule := ⟨10, none, true, 0xFFFFFFFF⟩

/-- The host part of an endpoint: a dotted form, or a colon form in brackets. -/
inductive Host : List Char → Address → Prop
  | dotted {cs octets} (read : readV4 cs = some (octets, [])) : Host cs (v4 octets)
  | bracketed {cs groups} (read : readV6 cs = some (groups, [])) :
    Host ('[' :: (cs ++ [']'])) (v6 groups)

/-- The host part of an endpoint with a zone, which is no part of the address. -/
inductive ZonedHost : List Char → Address → Prop
  | intro {cs zone groups n} (read : readV6 cs = some (groups, []))
    (zoned : readNumeral zoneRule zone = some (n, [])) :
    ZonedHost ('[' :: (cs ++ '%' :: (zone ++ [']']))) (v6 groups)

theorem tidy_readPort : Tidy (isDigitIn 10) readPort :=
  (tidy_readNumeral ⟨10, none, true, 0xFFFF⟩).map UInt16.ofNat

/-- The port of an endpoint is made of digits only. -/
theorem isDigit_of_readPort {cs : List Char} {port : UInt16}
    (read : readPort cs = some (port, [])) : ∀ c ∈ cs, isDigitIn 10 c = true := by
  obtain ⟨front, rfl, taken⟩ := tidy_readPort.takes read
  simpa using taken

theorem not_mem_of_readPort {cs : List Char} {port : UInt16}
    (read : readPort cs = some (port, [])) : ':' ∉ cs := fun mem =>
  absurd (isDigit_of_readPort read ':' mem) (by decide)

/-- A zone is skipped, or there is none. -/
theorem skipZone_cases (cs : List Char) :
    skipZone cs = cs ∨ ∃ zone n, cs = '%' :: (zone ++ skipZone cs) ∧
      readNumeral zoneRule (zone ++ skipZone cs) = some (n, skipZone cs) := by
  rw [skipZone]
  cases zoned : expect '%' cs >>= readNumeral ⟨10, none, true, 0xFFFFFFFF⟩ with
  | none => exact .inl rfl
  | some read =>
    obtain ⟨behind, percent, number⟩ := Option.bind_eq_some_iff.1 zoned
    obtain ⟨zone, rfl, -⟩ := (tidy_readNumeral zoneRule).takes number
    exact .inr ⟨zone, read.1, expect_eq_some.1 percent, number⟩

theorem skipZone_bracket (cs : List Char) : skipZone (']' :: cs) = ']' :: cs := by
  simp [skipZone, expect]

theorem skipZone_zone {zone cs : List Char} {n : Nat}
    (zoned : readNumeral zoneRule zone = some (n, [])) :
    skipZone ('%' :: (zone ++ ']' :: cs)) = ']' :: cs := by
  have framed : readNumeral zoneRule (zone ++ ']' :: cs) = some (n, ']' :: cs) :=
    (tidy_readNumeral zoneRule).onward zoned (stops_cons.2 rfl)
  rw [zoneRule] at framed
  simp [skipZone, framed]

theorem readEndpointV4_eq_some {cs : List Char} {address : Address} {port : UInt16} :
    readEndpointV4 cs = some ((address, port), []) ↔
      ∃ octets host digits, address = v4 octets ∧ cs = host ++ ':' :: digits ∧
        readV4 host = some (octets, []) ∧ readPort digits = some (port, []) := by
  constructor
  · intro read
    obtain ⟨⟨octets, behind⟩, dotted, read⟩ := Option.bind_eq_some_iff.1 read
    obtain ⟨digits, colon, read⟩ := Option.bind_eq_some_iff.1 read
    obtain ⟨⟨port, rest⟩, number, same⟩ := Option.bind_eq_some_iff.1 read
    obtain rfl := expect_eq_some.1 colon
    obtain ⟨host, rfl, -, alone⟩ := tidy_readV4.cut dotted (stops_cons.2 rfl)
    cases same
    exact ⟨octets, host, digits, rfl, rfl, alone, number⟩
  · rintro ⟨octets, host, digits, rfl, rfl, dotted, number⟩
    have framed : readV4 (host ++ ':' :: digits) = some (octets, ':' :: digits) :=
      tidy_readV4.onward dotted (stops_cons.2 rfl)
    simp [readEndpointV4, framed, number]

theorem host_of_readEndpointV6 {cs : List Char} {address : Address} {port : UInt16}
    (read : readEndpointV6 cs = some ((address, port), [])) :
    ∃ host digits, cs = host ++ ':' :: digits ∧ readPort digits = some (port, []) ∧
      (Host host address ∨ ZonedHost host address) := by
  obtain ⟨inside, bracket, read⟩ := Option.bind_eq_some_iff.1 read
  obtain ⟨⟨groups, behind⟩, colons, read⟩ := Option.bind_eq_some_iff.1 read
  obtain ⟨after, close, read⟩ := Option.bind_eq_some_iff.1 read
  obtain ⟨digits, colon, read⟩ := Option.bind_eq_some_iff.1 read
  obtain ⟨⟨port, rest⟩, number, same⟩ := Option.bind_eq_some_iff.1 read
  obtain rfl := expect_eq_some.1 bracket
  obtain rfl := expect_eq_some.1 colon
  have closing : skipZone behind = ']' :: ':' :: digits := expect_eq_some.1 close
  cases same
  rcases skipZone_cases behind with unzoned | ⟨zone, n, zoned, number'⟩
  · rw [← unzoned, closing] at colons
    obtain ⟨inner, rfl, -, alone⟩ := tidy_readV6.cut colons (stops_cons.2 rfl)
    exact ⟨'[' :: (inner ++ [']']), digits, by simp, number, .inl (.bracketed alone)⟩
  · rw [closing] at zoned number'
    rw [zoned] at colons
    obtain ⟨inner, rfl, -, alone⟩ := tidy_readV6.cut colons (stops_cons.2 rfl)
    obtain ⟨front, whole, -, alone'⟩ := (tidy_readNumeral zoneRule).cut number' (stops_cons.2 rfl)
    obtain rfl := List.append_cancel_right whole
    exact ⟨'[' :: (inner ++ '%' :: (zone ++ [']'])), digits, by simp, number,
      .inr (.intro alone alone')⟩

theorem readEndpointV6_of_close {cs behind digits : List Char} {groups : Vector UInt16 8}
    {port : UInt16} (read : readV6 cs = some (groups, [])) (stops : Stops isAddressChar behind)
    (closing : skipZone behind = ']' :: ':' :: digits)
    (number : readPort digits = some (port, [])) :
    readEndpointV6 ('[' :: (cs ++ behind)) = some ((v6 groups, port), []) := by
  simp [readEndpointV6, tidy_readV6.onward read stops, closing, number]

theorem readEndpointV4_of_bracket (cs : List Char) : readEndpointV4 ('[' :: cs) = none := by
  have none : readV4 ('[' :: cs) = none := readV4_of_stops (stops_cons.2 rfl)
  rw [readEndpointV4, none]
  rfl

/-- An endpoint is a host part, with a zone perhaps, a colon and a port. -/
theorem readEndpoint?_eq_some {cs : List Char} {address : Address} {port : UInt16} :
    readEndpoint? cs = some (address, port) ↔
      ∃ host digits, cs = host ++ ':' :: digits ∧ readPort digits = some (port, []) ∧
        (Host host address ∨ ZonedHost host address) := by
  rw [readEndpoint?, whole_eq_some]
  constructor
  · intro read
    rcases Option.or_eq_some_iff.1 read with read | ⟨-, read⟩
    · obtain ⟨octets, host, digits, rfl, rfl, dotted, number⟩ := readEndpointV4_eq_some.1 read
      exact ⟨host, digits, rfl, number, .inl (.dotted dotted)⟩
    · exact host_of_readEndpointV6 read
  · rintro ⟨host, digits, rfl, number, form⟩
    rcases form with (⟨dotted⟩ | ⟨colons⟩) | ⟨colons, zoned⟩
    · rw [readEndpointV4_eq_some.2 ⟨_, _, _, rfl, rfl, dotted, number⟩]
      rfl
    · rw [List.cons_append, List.append_assoc, readEndpointV4_of_bracket]
      exact readEndpointV6_of_close colons (stops_cons.2 rfl) (skipZone_bracket _) number
    · rw [List.cons_append, List.append_assoc, readEndpointV4_of_bracket]
      refine readEndpointV6_of_close colons (stops_cons.2 rfl) ?_ number
      simpa using skipZone_zone zoned

end Southbound.Address
