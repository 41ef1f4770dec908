import Framelink.Address.Ip
import Framelink.Proofs.Frame
import Framelink.Proofs.Numerals
import Mathlib.Data.List.TakeWhile

/-!
# Addresses are read back

Every address is the one that its written form is read as.  Four octets are numerals with
points between them.  Eight groups are numerals with colons between them, which are not
taken for octets because no point comes behind the first digits; where a run of zero groups
is left out, the reader stops at the two colons, and fills up with as many zeros as there
are groups missing.
-/

namespace Framelink
namespace IpAddress

open Digits

/-! ## Four octets -/

/-- The numeral of an octet, in characters. -/
def octetText (octet : UInt8) : List Char := Nat.toDigits 10 octet.toNat

theorem readOctet_text (octet : UInt8) {rest : List Char} (stops : Stops 10 rest) :
    readOctet (octetText octet ++ rest) = some (octet, rest) := by
  have found := read_toDigits ⟨10, some 3, false, 256⟩ octet.toNat
    (by decide) (by decide) octet.toNat_lt
    (by
      rintro width ⟨⟩
      exact ⟨by decide, Nat.lt_trans octet.toNat_lt (by decide)⟩)
    stops
  rw [readOctet, octetText]
  simp [found]

theorem toList_quadText (first second third fourth : UInt8) :
    (quadText [first, second, third, fourth]).toList =
      octetText first ++ '.' :: (octetText second ++ '.' :: (octetText third ++
        '.' :: octetText fourth)) := by
  simp [quadText, octetText, String.intercalate_cons_cons, Nat.repr_eq_ofList_toDigits]

theorem exists_quad (octets : Vector UInt8 4) :
    ∃ first second third fourth, octets = #v[first, second, third, fourth] := by
  refine ⟨octets[0], octets[1], octets[2], octets[3], ?_⟩
  ext place inside
  obtain rfl | rfl | rfl | rfl : place = 0 ∨ place = 1 ∨ place = 2 ∨ place = 3 := by omega
  all_goals rfl

/-- A point is no digit. -/
theorem stops_point (text : List Char) : Stops 10 ('.' :: text) := stops_cons (by decide) text

@[simp] theorem readMark_self (mark : Char) (text : List Char) :
    readMark mark (mark :: text) = some text := if_pos rfl

/-- Four written octets are read back, whatever stands behind them that is no digit. -/
theorem readQuad_text (octets : Vector UInt8 4) {rest : List Char} (stops : Stops 10 rest) :
    readQuad ((quadText octets.toList).toList ++ rest) = some (octets, rest) := by
  obtain ⟨first, second, third, fourth, rfl⟩ := exists_quad octets
  have text : (quadText #v[first, second, third, fourth].toList).toList ++ rest =
      octetText first ++ '.' :: (octetText second ++ '.' :: (octetText third ++
        '.' :: (octetText fourth ++ rest))) := by
    change (quadText [first, second, third, fourth]).toList ++ rest = _
    rw [toList_quadText]
    simp only [List.append_assoc, List.cons_append]
  rw [text, readQuad]
  simp only [readOctet_text _ (stops_point _), readOctet_text _ stops, readMark_self,
    Option.bind_eq_bind, Option.bind_some]
  rfl

/-- There are no four octets where no point comes behind the digits. -/
theorem readQuad_eq_none {text : List Char}
    (pointless : (text.dropWhile (isDigit 10)).head? ≠ some '.') : readQuad text = none := by
  rw [readQuad]
  cases found : readOctet text with
  | none => rfl
  | some octet =>
      obtain ⟨first, rest⟩ := octet
      rw [readOctet, Option.map_eq_some_iff] at found
      obtain ⟨⟨value, behind⟩, numeral, same⟩ := found
      have dropped := rest_of_read numeral
      obtain ⟨-, rfl⟩ := Prod.mk.inj same
      rw [← dropped] at pointless
      have missing : readMark '.' behind = none := by
        cases behind with
        | nil => rfl
        | cons character behind => exact if_neg fun same => pointless (congrArg some same)
      simp only [Option.bind_eq_bind, Option.bind_some, missing]
      rfl

/-! ## One group -/

/-- A text goes on with a colon, if it goes on. -/
def Ends (text : List Char) : Prop := ∀ character ∈ text.head?, character = ':'

theorem ends_nil : Ends [] := fun _ none => nomatch none

theorem ends_colon (text : List Char) : Ends (':' :: text) := by
  rintro _ ⟨⟩
  rfl

variable {rest : List Char}

theorem Ends.stops (ends : Ends rest) : Stops 16 rest := by
  intro character head
  rw [ends character head]
  decide

theorem isDigit_groupText (group : UInt16) :
    ∀ character ∈ (groupText group).toList, isDigit 16 character = true := by
  rw [groupText, String.toList_ofList]
  exact isDigit_toDigits (by decide) (by decide) group.toNat

theorem readGroup_text (group : UInt16) (ends : Ends rest) :
    readGroup ((groupText group).toList ++ rest) = some (group, rest) := by
  have found := read_toDigits ⟨16, some 4, true, 65536⟩ group.toNat
    (by decide) (by decide) group.toNat_lt
    (by
      rintro width ⟨⟩
      exact ⟨by decide, group.toNat_lt⟩)
    ends.stops
  rw [readGroup, groupText, String.toList_ofList]
  simp [found]

theorem readGroup_of_ends (ends : Ends rest) : readGroup rest = none := by
  rw [readGroup, read_eq_none ends.stops]
  rfl

/-- Digits of a group, decimal or not, have no point behind them. -/
theorem readQuad_digits {digits : List Char}
    (all : ∀ character ∈ digits, isDigit 16 character = true) (ends : Ends rest) :
    readQuad (digits ++ rest) = none := by
  apply readQuad_eq_none
  induction digits with
  | nil =>
      cases rest with
      | nil => simp
      | cons character rest =>
          rw [ends character rfl, List.nil_append,
            List.dropWhile_cons_of_neg (by decide : ¬ isDigit 10 ':' = true)]
          simp
  | cons digit digits inductionHypothesis =>
      obtain ⟨first, others⟩ := List.forall_mem_cons.1 all
      rw [List.cons_append, List.dropWhile_cons]
      split
      · exact inductionHypothesis others
      · rintro ⟨⟩
        exact absurd first (by decide)

theorem readQuad_of_ends (ends : Ends rest) : readQuad rest = none := by
  rw [← List.nil_append rest]
  exact readQuad_digits (fun _ none => nomatch none) ends

/-! ## Groups with colons between them -/

/-- Groups with a colon before each. -/
def groupsBehind (groups : List UInt16) : List Char :=
  groups.flatMap fun group => ':' :: (groupText group).toList

theorem toList_groupsText (group : UInt16) (groups : List UInt16) :
    (groupsText (group :: groups)).toList =
      (groupText group).toList ++ groupsBehind groups := by
  rw [groupsText, List.map_cons, toList_intercalate, List.flatMap_map]
  rfl

/-- Behind a row of groups, a text ends or goes on with two colons. -/
def Halts (text : List Char) : Prop := text = [] ∨ ∃ more, text = ':' :: ':' :: more

theorem halts_nil : Halts [] := .inl rfl

theorem halts_colons (more : List Char) : Halts (':' :: ':' :: more) := .inr ⟨more, rfl⟩

theorem Halts.ends (halts : Halts rest) : Ends rest := by
  rcases halts with rfl | ⟨more, rfl⟩
  · exact ends_nil
  · exact ends_colon _

theorem ends_groupsBehind (groups : List UInt16) (ends : Ends rest) :
    Ends (groupsBehind groups ++ rest) := by
  cases groups with
  | nil => exact ends
  | cons group groups => exact ends_colon _

theorem readGroups_halts (room : Nat) (isFirst : Bool) (halts : Halts rest) :
    readGroups room isFirst rest = ⟨[], false, rest⟩ := by
  cases room with
  | zero => rfl
  | succ room =>
      have nothing (numeral : List Char) (ends : Ends numeral) :
          readQuad numeral = none ∧ readGroup numeral = none :=
        ⟨readQuad_of_ends ends, readGroup_of_ends ends⟩
      cases isFirst with
      | true => simp [readGroups, nothing rest halts.ends]
      | false =>
          rcases halts with rfl | ⟨more, rfl⟩
          · simp [readGroups, readMark]
          · simp [readGroups, nothing _ (ends_colon more)]

/-- A group is read that stands first, or behind a colon. -/
theorem readGroups_step (room : Nat) (isFirst : Bool) (group : UInt16) (ends : Ends rest) :
    readGroups (room + 1) isFirst
        ((if isFirst then [] else [':']) ++ ((groupText group).toList ++ rest)) =
      { readGroups room false rest with
        groups := group :: (readGroups room false rest).groups } := by
  have octets := readQuad_digits (isDigit_groupText group) ends
  have found := readGroup_text group ends
  cases isFirst <;> simp [readGroups, octets, found]

theorem readGroups_behind (groups : List UInt16) (room : Nat) (fits : groups.length ≤ room)
    (halts : Halts rest) :
    readGroups room false (groupsBehind groups ++ rest) = ⟨groups, false, rest⟩ := by
  induction groups generalizing room with
  | nil => exact readGroups_halts room false halts
  | cons group groups inductionHypothesis =>
      obtain ⟨less, rfl⟩ := Nat.exists_eq_succ_of_ne_zero (Nat.ne_zero_of_lt fits)
      have step := readGroups_step less false group (ends_groupsBehind groups halts.ends)
      rw [inductionHypothesis less (Nat.le_of_succ_le_succ fits)] at step
      simpa [groupsBehind] using step

/-- A row of groups is read up to where it ends. -/
theorem readGroups_text (groups : List UInt16) (room : Nat) (fits : groups.length ≤ room)
    (halts : Halts rest) :
    readGroups room true ((groupsText groups).toList ++ rest) = ⟨groups, false, rest⟩ := by
  cases groups with
  | nil => exact readGroups_halts room true halts
  | cons group groups =>
      obtain ⟨less, rfl⟩ := Nat.exists_eq_succ_of_ne_zero (Nat.ne_zero_of_lt fits)
      have step := readGroups_step less true group (ends_groupsBehind groups halts.ends)
      rw [readGroups_behind groups less (Nat.le_of_succ_le_succ fits) halts] at step
      rw [toList_groupsText, List.append_assoc]
      exact step

/-! ## The longest run of zero groups -/

theorem replicate_of_leadingZeros {groups : List UInt16} {length : Nat}
    (short : length ≤ leadingZeros groups) :
    groups.take length = List.replicate length 0 := by
  rw [List.eq_replicate_iff]
  have zeros : groups.take length <+: groups.takeWhile (· == 0) := by
    rw [leadingZeros] at short
    have parts := List.takeWhile_append_dropWhile (p := (· == 0)) (l := groups)
    rw [← parts, List.take_append_of_le_length short]
    rw [parts]
    exact List.take_prefix _ _
  refine ⟨?_, ?_⟩
  · rw [List.length_take]
    have inside := (List.takeWhile_prefix (· == 0) (l := groups)).length_le
    rw [leadingZeros] at short
    omega
  · intro group within
    simpa using List.mem_takeWhile_imp (zeros.subset within)

/-- Where the longest run of zero groups is said to be, there are as many. -/
theorem longestZeroRun_le (groups : List UInt16) :
    (longestZeroRun groups).2 ≤ leadingZeros (groups.drop (longestZeroRun groups).1) := by
  have scan (starts : List Nat) (best : Nat × Nat)
      (right : best.2 ≤ leadingZeros (groups.drop best.1)) :
      let found := starts.foldl
        (fun best start =>
          if best.2 < leadingZeros (groups.drop start) then
            (start, leadingZeros (groups.drop start)) else best) best
      found.2 ≤ leadingZeros (groups.drop found.1) := by
    induction starts generalizing best with
    | nil => exact right
    | cons start starts inductionHypothesis =>
        rw [List.foldl_cons]
        split
        · exact inductionHypothesis _ (Nat.le_refl _)
        · exact inductionHypothesis _ right
  exact scan (List.range groups.length) (0, 0) (Nat.zero_le _)

/-- The groups are those before the run, its zeros, and those behind it. -/
theorem longestZeroRun_parts (groups : List UInt16) :
    let (start, length) := longestZeroRun groups
    groups.take start ++ List.replicate length 0 ++ groups.drop (start + length) = groups := by
  have zeros := replicate_of_leadingZeros (longestZeroRun_le groups)
  dsimp only
  rw [← zeros, List.append_assoc, ← List.drop_drop, List.take_append_drop, List.take_append_drop]

/-! ## Eight groups -/

theorem joinGroups_eq {front back : List UInt16} {groups : Vector UInt16 8}
    (parts : front ++ List.replicate (8 - (front.length + back.length)) 0 ++ back =
      groups.toList) :
    joinGroups front back = some groups := by
  have same : groups.toList.toArray = groups.toArray := Array.toArray_toList
  simp [joinGroups, parts, same]

theorem readV6_groupsText (groups : Vector UInt16 8) :
    readV6 (groupsText groups.toList).toList = some (groups, []) := by
  have row := readGroups_text groups.toList 8 (by simp) halts_nil
  have joined : joinGroups groups.toList [] = some groups := joinGroups_eq (by simp)
  rw [List.append_nil] at row
  simp [readV6, row, joined]

/-- Two colons are read as the zeros that are missing between the groups before and the
groups behind. -/
theorem readV6_shortened {front back : List UInt16} {zeros : Nat} {groups : Vector UInt16 8}
    (parts : front ++ List.replicate zeros 0 ++ back = groups.toList) (some_left : 0 < zeros) :
    readV6 ((groupsText front).toList ++ ':' :: ':' :: (groupsText back).toList) =
      some (groups, []) := by
  have eight : front.length + (zeros + back.length) = 8 := by
    simpa using congrArg List.length parts
  have missing : 8 - (front.length + back.length) = zeros := by omega
  have before := readGroups_text front 8 (by omega) (halts_colons (groupsText back).toList)
  have behind := readGroups_text back (7 - front.length) (by omega) halts_nil
  have joined : joinGroups front back = some groups := joinGroups_eq (by rw [missing, parts])
  have short : front.length ≠ 8 := by omega
  rw [List.append_nil] at behind
  simp [readV6, before, behind, joined, short]

theorem readV6_shortenedText (groups : Vector UInt16 8) :
    readV6 (shortenedText groups.toList).toList = some (groups, []) := by
  have parts := longestZeroRun_parts groups.toList
  rw [shortenedText]
  split
  next start length found =>
    rw [found] at parts
    split
    · next long =>
        rw [String.toList_append, String.toList_append, List.append_assoc]
        exact readV6_shortened parts (Nat.zero_lt_of_lt long)
    · exact readV6_groupsText groups

/-- Groups are not taken for octets. -/
theorem readQuad_groupsText (groups : List UInt16) (ends : Ends rest) :
    readQuad ((groupsText groups).toList ++ rest) = none := by
  cases groups with
  | nil => exact readQuad_of_ends ends
  | cons group groups =>
      rw [toList_groupsText, List.append_assoc]
      exact readQuad_digits (isDigit_groupText group) (ends_groupsBehind groups ends)

theorem readQuad_shortenedText (groups : List UInt16) :
    readQuad (shortenedText groups).toList = none := by
  rw [shortenedText]
  split
  split
  · rw [String.toList_append, String.toList_append, List.append_assoc]
    exact readQuad_groupsText _ (ends_colon _)
  · rw [← List.append_nil (String.toList _)]
    exact readQuad_groupsText groups ends_nil

/-! ## Four octets in eight groups -/

theorem groupOfOctets_groupOctets (group : UInt16) :
    groupOfOctets (group >>> 8).toUInt8 group.toUInt8 = group := by
  rw [groupOfOctets, UInt16.or_comm]
  exact Frame.trailerValue_trailer group

/-- Behind two colons at the front stand the last groups. -/
theorem readV6_colons {behind : List Char} {back : List UInt16} {endsInQuad : Bool}
    {groups : Vector UInt16 8} (row : readGroups 7 true behind = ⟨back, endsInQuad, []⟩)
    (joined : joinGroups [] back = some groups) :
    readV6 (':' :: ':' :: behind) = some (groups, []) := by
  have before := readGroups_halts 8 true (halts_colons behind)
  simp [readV6, before, row, joined]

/-- An address that embeds four octets is read back. -/
theorem readV6_mapped (high low : UInt16) :
    readV6 ("::ffff:" ++ quadText (groupOctets high ++ groupOctets low)).toList =
      some (#v[0, 0, 0, 0, 0, 0xffff, high, low], []) := by
  have octets := readQuad_text
    #v[(high >>> 8).toUInt8, high.toUInt8, (low >>> 8).toUInt8, low.toUInt8] (stops_nil 10)
  -- The octets stand for the last two of the seven groups that may follow.
  have last : readGroups 6 false
      (':' :: (quadText (groupOctets high ++ groupOctets low)).toList) =
        ⟨[high, low], true, []⟩ := by
    rw [List.append_nil] at octets
    change readQuad (quadText (groupOctets high ++ groupOctets low)).toList = _ at octets
    simp [readGroups, octets, groupOfOctets_groupOctets]
  have row := readGroups_step 6 true 0xffff
    (ends_colon (quadText (groupOctets high ++ groupOctets low)).toList)
  rw [last] at row
  rw [String.toList_append]
  exact readV6_colons row rfl

/-! ## All addresses -/

/-- Every address is the one that its written form is read as. -/
theorem ofText?_text (address : IpAddress) : ofText? address.text = some address := by
  cases address with
  | v4 octets =>
      have found := readQuad_text octets (stops_nil 10)
      rw [List.append_nil] at found
      simp [ofText?, text, found]
  | v6 groups =>
      rw [text]
      split
      · next high low embeds =>
          have same : groups = #v[0, 0, 0, 0, 0, 0xffff, high, low] :=
            Vector.toList_inj.1 embeds
          have octets : readQuad
              ("::ffff:" ++ quadText (groupOctets high ++ groupOctets low)).toList = none := by
            rw [String.toList_append]
            exact readQuad_of_ends (ends_colon _)
          simp only [ofText?, octets, readV6_mapped, same]
      · simp only [ofText?, readQuad_shortenedText, readV6_shortenedText]

end IpAddress
end Framelink
