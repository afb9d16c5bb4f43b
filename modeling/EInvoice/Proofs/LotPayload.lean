import EInvoice.Archive.Lot
import EInvoice.Proofs.Base64
import EInvoice.Proofs.Utf8
import Mathlib

/-!
# Lot payloads read back

A lot's payload is the base64 text of a zip archive whose one entry holds the lot's bytes,
deflated. Reading the payload undoes each layer, so the lot comes back byte for byte
(`lot_payload_round_trip`), on two assumptions about the deflate codec, gathered in
`DeflateInverts`: its stream inflates back to its input, and it fits in memory.

The archive is read the way a zip reader reads it: the end record is found from the end, the
zip64 end record through its locator when the directory lies past the 32-bit offsets, then
the directory entry, then the local header, the data and the data descriptor. Each step has
a lemma saying that the field the reader takes is the value the writer put there; these are
little-endian numbers at fixed offsets (`littleEndian_leBytes`), read from the written
layout by `List.take_append` and `List.drop_append`.
-/

namespace EInvoice.Archive

open EInvoice.Text

/-! ## Little-endian fields -/

theorem leBytes_succ (n v : Nat) : leBytes (n + 1) v = (v % 256).toUInt8 :: leBytes n (v / 256) := by
  simp only [leBytes, List.range_succ_eq_map, List.map_cons, List.map_map]
  congr 1
  · simp
  · apply List.map_congr_left
    intro i _
    simp [Nat.pow_succ, Nat.div_div_eq_div_mul, Nat.mul_comm]

@[simp] theorem littleEndian_nil : littleEndian [] = 0 := rfl
@[simp] theorem littleEndian_cons (b : UInt8) (bs : Bytes) :
    littleEndian (b :: bs) = littleEndian bs * 256 + b.toNat := rfl

@[simp] theorem littleEndian_leBytes (n v : Nat) : littleEndian (leBytes n v) = v % 256 ^ n := by
  induction n generalizing v with
  | zero => simp [leBytes, Nat.mod_one]
  | succ n ih =>
    rw [leBytes_succ, littleEndian_cons, ih]
    have : ((v % 256).toUInt8).toNat = v % 256 := by simp
    rw [this, pow_succ', Nat.mod_mul]
    ring

attribute [simp] leBytes_length

theorem readFull_append {xs : Bytes} {n : Nat} (rest : Bytes) (h : xs.length = n) :
    readFull (xs ++ rest) n = .ok (xs, rest) := by
  subst h
  rcases xs with _ | ⟨x, xs⟩
  · rfl
  · simp [readFull, List.take_left', List.drop_left']

theorem readAt_append (pre xs post : Bytes) :
    readAt (pre ++ xs ++ post) pre.length xs.length = .ok xs := by
  simp [readAt, List.drop_left', List.take_left']

/-! ## The directory and its end -/

/-- The end record is found where it stands, at the end. -/
theorem findEndSignature_endRecord (pre : Bytes) (r s o : Nat) :
    findEndSignature (pre ++ endRecord r s o) = some pre.length := by
  have hlen : (pre ++ endRecord r s o).length = pre.length + 22 := by simp [endRecord]
  unfold findEndSignature
  rw [hlen, show pre.length + 22 + 1 - 22 = pre.length + 1 by omega]
  simp only [findEndSignature.go, Nat.add_sub_cancel, List.drop_left']
  have h4 : (endRecord r s o).take 4 = [0x50, 0x4B, 0x05, 0x06] := by
    simp [endRecord]; decide
  have hc : littleEndian (((endRecord r s o).drop 20).take 2) = 0 := by
    simp [endRecord, List.drop_append, List.drop_eq_nil_of_le, List.take_of_length_le]
  have hd : (pre.drop (pre.length + 20)) = [] := List.drop_eq_nil_of_le (by omega)
  simp only [List.drop_append, h4, if_true, hd, List.nil_append, Nat.add_sub_cancel_left, hc, hlen]
  simp only [zero_add, gt_iff_lt, lt_self_iff_false, if_false, Nat.add_comm 22]

theorem entryFlags_lt (name : Bytes) : entryFlags name < 65536 := by
  unfold entryFlags; split <;> decide

/-- The zip64 extra field gives both sizes, in full. -/
theorem zip64Fields_zip64Extra (e : ZipEntry) {size comp : Nat} (h : needsZip64 size comp = true) :
    zip64Fields (zip64Extra size comp) e true true false 29 =
      .ok { e with size := size % 2 ^ 64, compressedSize := comp % 2 ^ 64 } := by
  simp [zip64Extra, h, zip64Fields, List.drop_append, List.take_of_length_le,
    List.drop_eq_nil_of_le, Bind.bind, Except.bind]

/-- The directory entry reads back: the name, flags, method, CRC, both sizes (from the zip64
field when they need one) and the offset zero of its local header. -/
theorem readDirectoryEntry_directoryEntry (name rest : Bytes) (crc size comp : Nat)
    (hname : name.length < 1024) (hcrc : crc < 2 ^ 32) :
    readDirectoryEntry (directoryEntry name crc size comp ++ rest) =
      .ok (⟨name, entryFlags name, 8, crc, comp % 2 ^ 64, size % 2 ^ 64, 0⟩, rest) := by
  have hfix : (directoryHeader name crc size comp).length = 46 := by simp [directoryHeader]
  have hflags := entryFlags_lt name
  rw [directoryEntry, List.append_assoc, List.append_assoc]
  simp only [readDirectoryEntry, readFull_append _ hfix]
  set H := directoryHeader name crc size comp with hH
  have hfields : littleEndian (H.take 4) = 0x02014b50 ∧
      littleEndian ((H.drop 8).take 2) = entryFlags name ∧
      littleEndian ((H.drop 10).take 2) = 8 ∧
      littleEndian ((H.drop 16).take 4) = crc ∧
      littleEndian ((H.drop 20).take 4) = (if needsZip64 size comp then max32 else comp % 2 ^ 32) ∧
      littleEndian ((H.drop 24).take 4) = (if needsZip64 size comp then max32 else size % 2 ^ 32) ∧
      littleEndian ((H.drop 28).take 2) = name.length ∧
      littleEndian ((H.drop 30).take 2) = (zip64Extra size comp).length ∧
      littleEndian ((H.drop 32).take 2) = 0 ∧
      littleEndian ((H.drop 42).take 4) = 0 := by
    have hx : (zip64Extra size comp).length < 65536 := by
      unfold zip64Extra; split <;> simp
    have hn : name.length < 65536 := by omega
    have hc : crc < 4294967296 := hcrc
    refine ⟨?_, ?_, ?_, ?_, ?_, ?_, ?_, ?_, ?_, ?_⟩ <;>
      simp [hH, directoryHeader, List.drop_append, List.take_of_length_le,
        List.drop_eq_nil_of_le, Nat.mod_eq_of_lt, hflags, hx, hn, hc]
    all_goals split <;> simp [max32]
  obtain ⟨f0, f8, f10, f16, f20, f24, f28, f30, f32, f42⟩ := hfields
  simp only [Bind.bind, Except.bind, f0, f8, f10, f16, f20, f24, f28, f30, f32, f42, ne_eq,
    not_true_eq_false, if_false, add_zero, ← List.append_assoc]
  rw [@readFull_append (name ++ zip64Extra size comp) _ rest (by simp)]
  simp only [List.take_left', List.drop_left', List.take_length, Nat.cast_zero]
  by_cases hbig : needsZip64 size comp = true
  · have hx : (zip64Extra size comp).length = 28 := by simp [zip64Extra, hbig]
    simp only [hbig, if_true, hx, max32, decide_true]
    rw [show decide ((0 : Int) = 4294967295) = false from rfl, zip64Fields_zip64Extra _ hbig]
    rfl
  · have hx : zip64Extra size comp = [] := by simp [zip64Extra, hbig]
    have hsmall : comp < max32 ∧ size < max32 := by simpa [needsZip64] using hbig
    have hc : comp % 2 ^ 32 = comp ∧ comp % 2 ^ 64 = comp := by simp only [max32] at hsmall; omega
    have hs : size % 2 ^ 32 = size ∧ size % 2 ^ 64 = size := by simp only [max32] at hsmall; omega
    have hne : comp ≠ 4294967295 ∧ size ≠ 4294967295 := by simp only [max32] at hsmall; omega
    simp only [hbig, hx, Bool.false_eq_true, if_false, hc.1, hc.2, hs.1, hs.2, hne.1, hne.2,
      decide_false, zip64Fields, List.length_nil]
    rfl

theorem endRecord_length (r s o : Nat) : (endRecord r s o).length = 22 := by simp [endRecord]

theorem endRecord_fields (r s o : Nat) :
    littleEndian (((endRecord r s o).drop 10).take 2) = r % 65536 ∧
    littleEndian (((endRecord r s o).drop 12).take 4) = s % 2 ^ 32 ∧
    littleEndian (((endRecord r s o).drop 16).take 4) = o % 2 ^ 32 := by
  refine ⟨?_, ?_, ?_⟩ <;>
    simp [endRecord, List.drop_append, List.drop_eq_nil_of_le]

/-- Reading the directory's end starts from the end record, found where it stands at the end. -/
theorem locate_endRecord (X : Bytes) (r s o : Nat) :
    findEndSignature ((X ++ endRecord r s o).drop
        ((X ++ endRecord r s o).length - min (X ++ endRecord r s o).length 66560)) =
      some (X.length - ((X ++ endRecord r s o).length - min (X ++ endRecord r s o).length 66560)) ∧
    ((X ++ endRecord r s o).drop
        ((X ++ endRecord r s o).length - min (X ++ endRecord r s o).length 66560)).drop
      (X.length - ((X ++ endRecord r s o).length - min (X ++ endRecord r s o).length 66560)) =
      endRecord r s o ∧
    (X ++ endRecord r s o).length - min (X ++ endRecord r s o).length 66560 ≤ X.length := by
  have hlen : (X ++ endRecord r s o).length = X.length + 22 := by simp [endRecord_length]
  have hk : (X ++ endRecord r s o).length - min (X ++ endRecord r s o).length 66560 ≤ X.length := by
    omega
  have hdrop : (X ++ endRecord r s o).drop
      ((X ++ endRecord r s o).length - min (X ++ endRecord r s o).length 66560) =
      X.drop ((X ++ endRecord r s o).length - min (X ++ endRecord r s o).length 66560) ++
        endRecord r s o := List.drop_append_of_le_length hk
  have hpre : (X.drop ((X ++ endRecord r s o).length - min (X ++ endRecord r s o).length 66560)).length =
      X.length - ((X ++ endRecord r s o).length - min (X ++ endRecord r s o).length 66560) := by simp
  refine ⟨?_, ?_, hk⟩
  · rw [hdrop, ← hpre, findEndSignature_endRecord]
  · rw [hdrop, ← hpre, List.drop_left]

/-! ## An archive of one entry -/

/-- The local header, the data and the data descriptor: what stands before the directory. -/
def entryBody (name contents deflated : Bytes) : Bytes :=
  localHeader name ++ deflated ++ dataDescriptor (crc32 contents).toNat contents.length deflated.length

/-- The directory of the archive's one entry. -/
def entryDirectory (name contents deflated : Bytes) : Bytes :=
  directoryEntry name (crc32 contents).toNat contents.length deflated.length

theorem zipOneEntry_eq (name contents deflated : Bytes) :
    zipOneEntry name contents deflated =
      entryBody name contents deflated ++ entryDirectory name contents deflated ++
        directoryEnd (entryDirectory name contents deflated).length
          (entryBody name contents deflated).length := rfl

theorem entryDirectory_length (name contents deflated : Bytes) :
    (entryDirectory name contents deflated).length ≤ 74 + name.length := by
  simp only [entryDirectory, directoryEntry, directoryHeader, zip64Extra]
  split <;> simp <;> omega

/-- A directory that needs no zip64 record is found through the end record alone. -/
theorem readDirectoryEnd_small (B C : Bytes) (hC : C.length < 0xFFFF) (hB : B.length < max32) :
    readDirectoryEnd (B ++ C ++ endRecord 1 C.length B.length) = .ok (⟨1, C.length, B.length⟩, 0) := by
  obtain ⟨hf, hrec, hk⟩ := locate_endRecord (B ++ C) 1 C.length B.length
  obtain ⟨f10, f12, f16⟩ := endRecord_fields 1 C.length B.length
  have hB' : B.length % 2 ^ 32 = B.length := Nat.mod_eq_of_lt (by simp only [max32] at hB; omega)
  have hC' : C.length % 2 ^ 32 = C.length := Nat.mod_eq_of_lt (by omega)
  have hlen : (B ++ C ++ endRecord 1 C.length B.length).length = B.length + C.length + 22 := by
    simp [endRecord_length]; omega
  unfold readDirectoryEnd
  simp only []
  rw [hf]
  simp only [hrec, f10, f12, f16, hB', hC', Nat.one_mod]
  rw [if_neg (by simp only [max32] at hB; omega)]
  have h63 : Nat.pow 2 63 = 9223372036854775808 := rfl
  simp only [pure, Except.pure, bind, Except.bind, hlen, List.length_append, h63]
  simp only [max32] at hB
  clear hf hrec f10 f12 f16 hB' hC'
  rw [if_neg (by omega), if_neg (by omega), if_neg (by omega)]
  simp only [Except.ok.injEq, Prod.mk.injEq, true_and]
  omega

theorem zip64EndRecord_length (s o : Nat) : (zip64EndRecord s o).length = 56 := by
  simp [zip64EndRecord]

theorem zip64Locator_length (p : Nat) : (zip64Locator p).length = 20 := by
  simp [zip64Locator]

/-- The zip64 end record, found through its locator, gives the directory's place. -/
theorem zip64End_found (B C E : Bytes) (hfit : B.length + C.length < 2 ^ 63) (d : DirectoryEnd) :
    zip64End (B ++ C ++ zip64EndRecord C.length B.length ++ zip64Locator (B.length + C.length) ++ E)
      (B ++ C ++ zip64EndRecord C.length B.length ++ zip64Locator (B.length + C.length)).length d =
    .ok (B.length + C.length, ⟨1, C.length, B.length⟩) := by
  have hZ := zip64EndRecord_length C.length B.length
  have hL := zip64Locator_length (B.length + C.length)
  have hloc : readAt (B ++ C ++ zip64EndRecord C.length B.length ++ zip64Locator (B.length + C.length) ++ E)
      ((B ++ C ++ zip64EndRecord C.length B.length ++ zip64Locator (B.length + C.length)).length - 20 : Nat)
      20 = .ok (zip64Locator (B.length + C.length)) := by
    have := readAt_append (B ++ C ++ zip64EndRecord C.length B.length) (zip64Locator (B.length + C.length)) E
    rw [hL] at this
    rw [← this]
    congr 2
    simp only [List.length_append, hL, hZ]
    omega
  have hrec : readAt (B ++ C ++ zip64EndRecord C.length B.length ++ zip64Locator (B.length + C.length) ++ E)
      ((B.length + C.length : Nat) : Int) 56 = .ok (zip64EndRecord C.length B.length) := by
    have := readAt_append (B ++ C) (zip64EndRecord C.length B.length) (zip64Locator (B.length + C.length) ++ E)
    rw [hZ] at this
    simpa [List.append_assoc] using this
  have fL : littleEndian ((zip64Locator (B.length + C.length)).take 4) = 0x07064b50 ∧
      littleEndian (((zip64Locator (B.length + C.length)).drop 4).take 4) = 0 ∧
      littleEndian (((zip64Locator (B.length + C.length)).drop 16).take 4) = 1 ∧
      littleEndian (((zip64Locator (B.length + C.length)).drop 8).take 8) = B.length + C.length := by
    have : B.length + C.length < 18446744073709551616 := by omega
    refine ⟨?_, ?_, ?_, ?_⟩ <;>
      simp [zip64Locator, List.drop_append, List.take_of_length_le,
        List.drop_eq_nil_of_le, Nat.mod_eq_of_lt this]
  have fZ : littleEndian ((zip64EndRecord C.length B.length).take 4) = 0x06064b50 ∧
      littleEndian (((zip64EndRecord C.length B.length).drop 32).take 8) = 1 ∧
      littleEndian (((zip64EndRecord C.length B.length).drop 40).take 8) = C.length ∧
      littleEndian (((zip64EndRecord C.length B.length).drop 48).take 8) = B.length := by
    have hc : C.length < 18446744073709551616 := by omega
    have hb : B.length < 18446744073709551616 := by omega
    refine ⟨?_, ?_, ?_, ?_⟩ <;>
      simp [zip64EndRecord, List.drop_append, List.take_of_length_le,
        List.drop_eq_nil_of_le, Nat.mod_eq_of_lt hc, Nat.mod_eq_of_lt hb]
  have h63 : Nat.pow 2 63 = 9223372036854775808 := rfl
  have hp : ¬ (B.length + C.length ≥ 9223372036854775808) := by omega
  have hbig : ¬ ((B ++ C ++ zip64EndRecord C.length B.length ++ zip64Locator (B.length + C.length)).length < 20) := by
    simp only [List.length_append, hL]; omega
  unfold zip64End
  simp only [hbig, if_false, hloc, Bind.bind, Except.bind, List.drop_zero, fL, ne_eq,
    not_true_eq_false, or_self, h63, hp, hrec, fZ, Pure.pure, Except.pure]

/-- A directory past the 32-bit offsets is found through the zip64 end record. -/
theorem readDirectoryEnd_zip64 (B C : Bytes) (hfit : B.length + C.length < 2 ^ 63) :
    readDirectoryEnd (B ++ C ++ zip64EndRecord C.length B.length ++ zip64Locator (B.length + C.length) ++
      endRecord 0xFFFF max32 max32) = .ok (⟨1, C.length, B.length⟩, 0) := by
  obtain ⟨hf, hrec, hk⟩ := locate_endRecord
    (B ++ C ++ zip64EndRecord C.length B.length ++ zip64Locator (B.length + C.length)) 0xFFFF max32 max32
  obtain ⟨f10, f12, f16⟩ := endRecord_fields 0xFFFF max32 max32
  have hZ := zip64EndRecord_length C.length B.length
  have hL := zip64Locator_length (B.length + C.length)
  have hE := endRecord_length 0xFFFF max32 max32
  have hoff : (B ++ C ++ zip64EndRecord C.length B.length ++ zip64Locator (B.length + C.length) ++
        endRecord 0xFFFF max32 max32).length -
      min (B ++ C ++ zip64EndRecord C.length B.length ++ zip64Locator (B.length + C.length) ++
        endRecord 0xFFFF max32 max32).length 66560 +
      ((B ++ C ++ zip64EndRecord C.length B.length ++ zip64Locator (B.length + C.length)).length -
        ((B ++ C ++ zip64EndRecord C.length B.length ++ zip64Locator (B.length + C.length) ++
          endRecord 0xFFFF max32 max32).length -
        min (B ++ C ++ zip64EndRecord C.length B.length ++ zip64Locator (B.length + C.length) ++
          endRecord 0xFFFF max32 max32).length 66560)) =
      (B ++ C ++ zip64EndRecord C.length B.length ++ zip64Locator (B.length + C.length)).length := by
    omega
  unfold readDirectoryEnd
  simp only []
  rw [hf]
  simp only [hrec, f10, f12, f16, hoff]
  rw [if_pos (by decide)]
  simp only [Bind.bind, Except.bind, zip64End_found B C _ hfit]
  have h63 : Nat.pow 2 63 = 9223372036854775808 := rfl
  have hlen : (B ++ C ++ zip64EndRecord C.length B.length ++ zip64Locator (B.length + C.length) ++
      endRecord 0xFFFF max32 max32).length = B.length + C.length + 98 := by
    simp only [List.length_append, hZ, hL, hE]
  simp only [hlen, h63, Pure.pure, Except.pure]
  clear hf hrec f10 f12 f16 hoff hk
  rw [if_neg (by omega), if_neg (by omega), if_neg (by omega)]
  simp only [Except.ok.injEq, Prod.mk.injEq, true_and]
  omega

/-- What follows the directory is no directory entry: the end record is too short to be one,
and the zip64 end record has another signature. -/
theorem readDirectoryEntry_directoryEnd (s o : Nat) :
    readDirectoryEntry (directoryEnd s o) = .error .unexpectedEnd ∨
      readDirectoryEntry (directoryEnd s o) = .error .format := by
  unfold directoryEnd
  split
  · right
    have hZ := zip64EndRecord_length s o
    obtain ⟨H, rest, hsplit, hH⟩ : ∃ H rest, zip64EndRecord s o ++ zip64Locator (o + s) ++
        endRecord 0xFFFF max32 max32 = H ++ rest ∧ H.length = 46 ∧ H.take 4 = leBytes 4 0x06064b50 :=
      ⟨(zip64EndRecord s o).take 46, (zip64EndRecord s o).drop 46 ++ zip64Locator (o + s) ++
        endRecord 0xFFFF max32 max32, by simp only [← List.append_assoc, List.take_append_drop],
        by simp [hZ],
        by simp [zip64EndRecord, List.take_append, List.take_of_length_le]⟩
    rw [hsplit]
    simp only [readDirectoryEntry, readFull_append _ hH.1, Bind.bind, Except.bind, hH.2,
      littleEndian_leBytes]
    rfl
  · left
    rfl

/-- The archive's directory end is found, through the zip64 records or not, as long as the
archive before its end records is shorter than `2 ^ 63` bytes. -/
theorem readDirectoryEnd_archive (name contents deflated : Bytes) (hname : name.length < 1024)
    (hfit : (entryBody name contents deflated).length +
      (entryDirectory name contents deflated).length < 2 ^ 63) :
    readDirectoryEnd (zipOneEntry name contents deflated) =
      .ok (⟨1, (entryDirectory name contents deflated).length,
        (entryBody name contents deflated).length⟩, 0) := by
  rw [zipOneEntry_eq, directoryEnd]
  split
  case isTrue =>
    simp only [← List.append_assoc]
    exact readDirectoryEnd_zip64 (entryBody name contents deflated)
      (entryDirectory name contents deflated) hfit
  case isFalse hsmall =>
    simp only [needsZip64End, Bool.or_eq_true, decide_eq_true_eq, not_or, not_le] at hsmall
    have hC := entryDirectory_length name contents deflated
    exact readDirectoryEnd_small (entryBody name contents deflated)
      (entryDirectory name contents deflated) (by omega) hsmall.2

/-- Reading the directory stops after its one entry. -/
theorem readEntries_directory (name : Bytes) (crc size comp s o fuel : Nat)
    (hname : name.length < 1024) (hcrc : crc < 2 ^ 32) :
    ∃ err, readEntries (directoryEntry name crc size comp ++ directoryEnd s o) (fuel + 2) =
      .ok ([⟨name, entryFlags name, 8, crc, comp % 2 ^ 64, size % 2 ^ 64, 0⟩], err) := by
  simp only [readEntries, readDirectoryEntry_directoryEntry name _ crc size comp hname hcrc]
  rcases readDirectoryEntry_directoryEnd s o with h | h <;> simp [h, Except.map]

/-- The entry the directory of `zipOneEntry name contents deflated` lists. -/
def archiveEntry (name contents deflated : Bytes) : ZipEntry :=
  ⟨name, entryFlags name, 8, (crc32 contents).toNat, deflated.length % 2 ^ 64,
    contents.length % 2 ^ 64, 0⟩

/-- An archive of one entry lists that entry, with nothing prepended to it. -/
theorem readArchive_archive (name contents deflated : Bytes) (hname : name.length < 1024)
    (hfit : (entryBody name contents deflated).length +
      (entryDirectory name contents deflated).length < 2 ^ 63) :
    readArchive (zipOneEntry name contents deflated) =
      .ok ([archiveEntry name contents deflated], 0) := by
  have hcrc : (crc32 contents).toNat < 2 ^ 32 := UInt32.toNat_lt _
  have hdrop : (zipOneEntry name contents deflated).drop (entryBody name contents deflated).length =
      entryDirectory name contents deflated ++ directoryEnd (entryDirectory name contents deflated).length
        (entryBody name contents deflated).length := by
    simp [zipOneEntry_eq, List.append_assoc]
  obtain ⟨fuel, hfuel⟩ : ∃ fuel, (zipOneEntry name contents deflated).length + 1 = fuel + 2 :=
    ⟨(zipOneEntry name contents deflated).length - 1, by
      have : 0 < (zipOneEntry name contents deflated).length := by
        simp [zipOneEntry_eq, directoryEnd]; split <;> simp [endRecord]
      omega⟩
  obtain ⟨err, hentries⟩ := readEntries_directory name (crc32 contents).toNat contents.length
    deflated.length (entryDirectory name contents deflated).length
    (entryBody name contents deflated).length fuel hname hcrc
  simp only [readArchive, readDirectoryEnd_archive name contents deflated hname hfit, Bind.bind,
    Except.bind, Int.zero_add, Int.toNat_natCast, hdrop, hfuel]
  rw [entryDirectory] at hentries ⊢
  simp [hentries, Pure.pure, Except.pure, archiveEntry]

/-- The fixed part of a local header, before the name, with the fields a reader takes from it:
the signature, the name's length and no extra field. -/
theorem localHeader_fields (name : Bytes) (hname : name.length < 65536) :
    ∃ P, localHeader name = P ++ name ∧ P.length = 30 ∧ littleEndian (P.take 4) = 0x04034b50 ∧
      littleEndian ((P.drop 26).take 2) = name.length ∧ littleEndian ((P.drop 28).take 2) = 0 := by
  refine ⟨_, rfl, ?_⟩
  simp [List.drop_append, List.take_of_length_le, List.drop_eq_nil_of_le, Nat.mod_eq_of_lt hname]

/-- The data of a deflated entry is inflated, and only its data. -/
theorem entryStream_deflated (pre deflated rest : Bytes) (e : ZipEntry) (hmethod : e.method = 8)
    (hsize : e.compressedSize = deflated.length) :
    entryStream (pre ++ deflated ++ rest) e pre.length =
      .ok ((inflate deflated).1, (inflate deflated).2.map .inflate) := by
  simp [entryStream, hmethod, hsize]

/-- The data descriptor gives the CRC the directory gives. -/
theorem checkDescriptor_dataDescriptor (pre rest : Bytes) (e : ZipEntry) (crc size comp : Nat)
    (hcrc : crc < 2 ^ 32) (he : e.crc = crc) :
    checkDescriptor (pre ++ dataDescriptor crc size comp ++ rest) e pre.length crc = .ok () := by
  obtain ⟨Q, hD, hQ⟩ : ∃ Q, dataDescriptor crc size comp =
      leBytes 4 0x08074b50 ++ (leBytes 4 crc ++ Q) ∧ 8 ≤ Q.length := by
    refine ⟨leBytes (if needsZip64 size comp then 8 else 4) comp ++
      leBytes (if needsZip64 size comp then 8 else 4) size,
      by simp only [dataDescriptor, List.append_assoc], ?_⟩
    simp only [List.length_append, leBytes_length]
    split <;> omega
  have htake : ((pre ++ dataDescriptor crc size comp ++ rest).drop pre.length).take 16 =
      leBytes 4 0x08074b50 ++ (leBytes 4 crc ++ (Q ++ rest).take 8) := by
    simp [hD, List.take_append, List.take_of_length_le, List.append_assoc]
  have h12 : (leBytes 4 crc ++ (Q ++ rest).take 8).length = 12 := by
    simp [List.take_append]; omega
  simp only [checkDescriptor, htake, readFull_append _ (leBytes_length 4 _), Except.mapError,
    Bind.bind, Except.bind, littleEndian_leBytes]
  have hread : readFull (leBytes 4 crc ++ (Q ++ rest).take 8) 12 =
      .ok (leBytes 4 crc ++ (Q ++ rest).take 8, []) := by
    simpa using readFull_append [] h12
  rw [hread]
  simpa [List.take_append, Nat.mod_eq_of_lt hcrc, he, Pure.pure, Except.pure] using hcrc

/-- The archive's entry reads back as the contents it was written from, whenever its data
inflates to them, unless these are too long for the 64-bit size fields. -/
theorem readEntry_archive (name contents deflated : Bytes) (hname : name.length < 1024)
    (hdir : name.getLast? ≠ some 0x2F) (hflate : inflate deflated = (contents, none))
    (hfit : deflated.length < 2 ^ 64) :
    readEntry (zipOneEntry name contents deflated) (archiveEntry name contents deflated) =
      if contents.length < 2 ^ 64 then .ok contents else .error .format := by
  obtain ⟨P, hP, hP30, hsig, hlen, hextra⟩ := localHeader_fields name (by omega)
  have hcrc : (crc32 contents).toNat < 2 ^ 32 := UInt32.toNat_lt _
  obtain ⟨rest, hdata⟩ : ∃ rest, zipOneEntry name contents deflated = P ++ name ++ deflated ++
      (dataDescriptor (crc32 contents).toNat contents.length deflated.length ++ rest) :=
    ⟨entryDirectory name contents deflated ++ directoryEnd (entryDirectory name contents deflated).length
      (entryBody name contents deflated).length,
      by simp only [zipOneEntry_eq, entryBody, hP, List.append_assoc]⟩
  have hheader : readAt (zipOneEntry name contents deflated) 0 30 = .ok P := by
    rw [hdata, ← hP30]
    simpa [List.append_assoc] using readAt_append [] P
      (name ++ (deflated ++ (dataDescriptor (crc32 contents).toNat contents.length deflated.length ++ rest)))
  have hstream : entryStream (zipOneEntry name contents deflated) (archiveEntry name contents deflated)
      (30 + name.length) = .ok (contents, none) := by
    rw [hdata, ← hP30, ← List.length_append, entryStream_deflated _ _ _ _ rfl (Nat.mod_eq_of_lt hfit)]
    simp [hflate]
  have hcheck : checkDescriptor (zipOneEntry name contents deflated) (archiveEntry name contents deflated)
      (30 + name.length + deflated.length) (crc32 contents).toNat = .ok () := by
    rw [hdata, ← List.append_assoc, ← hP30, ← List.length_append, ← List.length_append]
    exact checkDescriptor_dataDescriptor _ _ _ _ _ _ hcrc rfl
  have hflags : entryFlags name / 8 % 2 = 1 := by
    unfold entryFlags; split <;> rfl
  have hcomp : (archiveEntry name contents deflated).compressedSize = deflated.length :=
    Nat.mod_eq_of_lt hfit
  have hoff : (archiveEntry name contents deflated).headerOffset = 0 := rfl
  simp only [readEntry, hoff, hheader, hsig, hlen, hextra, Bind.bind, Except.bind, ne_eq,
    not_true_eq_false, if_false, Int.toNat_zero, Nat.zero_add, Nat.add_zero, hstream, hcomp, hcheck]
  simp only [archiveEntry, hdir, hflags, if_false, if_true, Pure.pure, Except.pure]
  by_cases hlong : contents.length < 2 ^ 64
  case pos =>
    rw [Nat.mod_eq_of_lt hlong, if_neg (lt_irrefl _), if_neg (not_not.mpr rfl), if_pos hlong]
  case neg =>
    have hwrap : contents.length % 2 ^ 64 < contents.length :=
      lt_of_lt_of_le (Nat.mod_lt _ (by positivity)) (not_lt.mp hlong)
    rw [if_pos hwrap, if_neg hlong]

/-! ## Lot payloads -/

/-- The name of a lot's entry, as the archive holds it. -/
theorem lotEntryName_encode : Text.encode lotEntryName = [108, 111, 116, 101, 46, 120, 109, 108] := by
  decide

/-- An archive written for a lot reads back as the lot's bytes when they are UTF-8 and within
the size limit, and as a compression failure when they are longer. -/
theorem decompressLot_archive (contents deflated : Bytes)
    (hflate : inflate deflated = (contents, none))
    (hfit : (entryBody (Text.encode lotEntryName) contents deflated).length +
      (entryDirectory (Text.encode lotEntryName) contents deflated).length < 2 ^ 63)
    (hvalid : isValid contents = true) :
    (contents.length ≤ maxLotSize →
      decompressLot (zipOneEntry (Text.encode lotEntryName) contents deflated) =
        .ok (decodeLossy contents)) ∧
    (maxLotSize < contents.length → ∃ e,
      decompressLot (zipOneEntry (Text.encode lotEntryName) contents deflated) =
        .error (.compression e)) := by
  have hname : (Text.encode lotEntryName).length < 1024 := by rw [lotEntryName_encode]; decide
  have hdir : (Text.encode lotEntryName).getLast? ≠ some 0x2F := by rw [lotEntryName_encode]; decide
  have hdeflated : deflated.length < 2 ^ 64 := by
    have : deflated.length ≤ (entryBody (Text.encode lotEntryName) contents deflated).length := by
      simp [entryBody]; omega
    omega
  have hentry := readEntry_archive _ contents deflated hname hdir hflate hdeflated
  have hlist := readArchive_archive _ contents deflated hname hfit
  constructor
  case left =>
    intro hsmall
    have hlong : contents.length < 2 ^ 64 := by simp only [maxLotSize] at hsmall; omega
    rw [if_pos hlong] at hentry
    simp [decompressLot, hlist, hentry, Except.mapError, Bind.bind, Except.bind, hvalid,
      Pure.pure, Except.pure, Nat.not_lt.mpr hsmall]
  case right =>
    intro hbig
    by_cases hlong : contents.length < 2 ^ 64
    case pos =>
      rw [if_pos hlong] at hentry
      simp [decompressLot, hlist, hentry, Except.mapError, Bind.bind, Except.bind, hbig]
    case neg =>
      -- too long for the 64-bit size fields: the entry itself does not read
      rw [if_neg hlong] at hentry
      simp [decompressLot, hlist, hentry, Except.mapError, Bind.bind, Except.bind]

theorem entryBody_length (name contents deflated : Bytes) :
    (entryBody name contents deflated).length ≤ 54 + name.length + deflated.length := by
  simp only [entryBody, localHeader, dataDescriptor]
  split <;> simp <;> omega

/-- A level that exists always compresses. -/
theorem compress_ok {level : Int} {m : Deflate.Method} (h : Deflate.methodOf level = .ok m)
    (data : Array UInt8) : ∃ d, Deflate.compress level data = .ok d := by
  simp only [Deflate.compress, h, Bind.bind, Except.bind]
  exact ⟨_, rfl⟩

/-- What a lot's payload assumes of the deflate stream written at `level` for `bytes`: it
inflates back to the bytes, and it is shorter than `2 ^ 62` bytes, as any byte string held in
memory is. -/
structure DeflateInverts (level : Int) (bytes : Bytes) : Prop where
  inflates : ∀ d, Deflate.compress level bytes.toArray = .ok d → inflate d.toList = (bytes, none)
  fits : ∀ d, Deflate.compress level bytes.toArray = .ok d → d.size < 2 ^ 62

/-- A lot's payload at any level that exists: making it fails as an encoding failure exactly
when the bytes are not UTF-8; otherwise reading it back gives the text whose UTF-8 is the
bytes, while they are within the size limit, and a compression failure past it. -/
theorem lot_payload_round_trip (level : Int) (bytes : Bytes)
    (hlevel : ∃ m, Deflate.methodOf level = .ok m) (hcodec : DeflateInverts level bytes) :
    ((∃ e, encodeLotBytes level bytes = .error (.encoding e)) ↔ isValid bytes = false) ∧
    (isValid bytes = true → bytes.length ≤ maxLotSize →
      ∃ p text, encodeLotBytes level bytes = .ok p ∧ decodeLot p = .ok text ∧
        Text.encode text = bytes) ∧
    (isValid bytes = true → maxLotSize < bytes.length →
      ∃ p e, encodeLotBytes level bytes = .ok p ∧ decodeLot p = .error (.compression e)) := by
  obtain ⟨m, hm⟩ := hlevel
  obtain ⟨d, hd⟩ := compress_ok hm bytes.toArray
  have hsize := hcodec.fits d hd
  have hfit : (entryBody (Text.encode lotEntryName) bytes d.toList).length +
      (entryDirectory (Text.encode lotEntryName) bytes d.toList).length < 2 ^ 63 := by
    have h1 := entryBody_length (Text.encode lotEntryName) bytes d.toList
    have h2 := entryDirectory_length (Text.encode lotEntryName) bytes d.toList
    have hn : (Text.encode lotEntryName).length = 8 := by rw [lotEntryName_encode]; rfl
    simp only [hn, Array.length_toList] at h1 h2
    omega
  have hround := decompressLot_archive bytes d.toList (hcodec.inflates d hd) hfit
  -- the payload of valid bytes, and what reading it back comes to
  have henc : isValid bytes = true → encodeLotBytes level bytes =
      .ok (Crypto.Base64.encode (zipOneEntry (Text.encode lotEntryName) bytes d.toList)) := by
    intro hv
    simp [encodeLotBytes, hv, hd, Except.mapError, Bind.bind, Except.bind, Pure.pure, Except.pure]
  have hdec (data : Bytes) : decodeLot (Crypto.Base64.encode data) = decompressLot data := by
    simp [decodeLot, Crypto.Base64.decode_encode, Except.mapError, Bind.bind, Except.bind]
  refine ⟨⟨?_, ?_⟩, ?_, ?_⟩
  · rintro ⟨e, he⟩
    by_contra hv
    rw [henc (by simpa using hv)] at he
    cases he
  · intro hv
    exact ⟨"lot text is not valid UTF-8", by simp [encodeLotBytes, hv, throw, throwThe, MonadExceptOf.throw, Bind.bind,
      Except.bind]⟩
  · intro hv hsmall
    exact ⟨_, _, henc hv, by rw [hdec, (hround hv).1 hsmall], encode_decodeLossy hv⟩
  · intro hv hbig
    obtain ⟨e, he⟩ := (hround hv).2 hbig
    exact ⟨_, e, henc hv, by rw [hdec, he]⟩

/-- The stored level reads a short lot back. -/
theorem stored_lot_round_trip :
    (∃ m, Deflate.methodOf 0 = .ok m) ∧ DeflateInverts 0 (Text.encode "<rLoteDE/>") ∧
    (((∃ e, encodeLotBytes 0 (Text.encode "<rLoteDE/>") = .error (.encoding e)) ↔
        isValid (Text.encode "<rLoteDE/>") = false) ∧
      (isValid (Text.encode "<rLoteDE/>") = true → (Text.encode "<rLoteDE/>").length ≤ maxLotSize →
        ∃ p text, encodeLotBytes 0 (Text.encode "<rLoteDE/>") = .ok p ∧ decodeLot p = .ok text ∧
          Text.encode text = Text.encode "<rLoteDE/>") ∧
      (isValid (Text.encode "<rLoteDE/>") = true → maxLotSize < (Text.encode "<rLoteDE/>").length →
        ∃ p e, encodeLotBytes 0 (Text.encode "<rLoteDE/>") = .ok p ∧
          decodeLot p = .error (.compression e))) := by
  have hstream : Deflate.compress 0 (Text.encode "<rLoteDE/>").toArray =
      .ok #[0, 10, 0, 245, 255, 60, 114, 76, 111, 116, 101, 68, 69, 47, 62, 3, 0] := by rfl
  have hlevel : ∃ m, Deflate.methodOf 0 = .ok m := ⟨_, Deflate.methodOf_zero⟩
  have hcodec : DeflateInverts 0 (Text.encode "<rLoteDE/>") := by
    constructor
    · intro d hd
      rw [hstream] at hd
      cases hd
      decide +kernel
    · intro d hd
      rw [hstream] at hd
      cases hd
      decide
  exact ⟨hlevel, hcodec, lot_payload_round_trip 0 _ hlevel hcodec⟩

/-! ## A payload that was made -/

/-- A payload is made only of UTF-8 bytes, as the base64 text of the archive of their deflate
stream. -/
theorem encodeLotBytes_eq_ok {level : Int} {bytes : Bytes} {p : String}
    (h : encodeLotBytes level bytes = .ok p) :
    isValid bytes = true ∧ ∃ d, Deflate.compress level bytes.toArray = .ok d ∧
      p = Crypto.Base64.encode (zipOneEntry (Text.encode lotEntryName) bytes d.toList) := by
  by_cases hv : isValid bytes = true
  · cases hd : Deflate.compress level bytes.toArray with
    | error e => simp [encodeLotBytes, hv, hd, Except.mapError, Bind.bind, Except.bind] at h
    | ok d =>
      simp only [encodeLotBytes, hv, hd, Except.mapError, Bind.bind, Except.bind, Pure.pure,
        Except.pure, Bool.not_true, Bool.false_eq_true, if_false, Except.ok.injEq] at h
      exact ⟨hv, d, rfl, h.symm⟩
  · simp [encodeLotBytes, hv, throw, throwThe, MonadExceptOf.throw, Bind.bind, Except.bind] at h

theorem decodeLot_encode (data : Bytes) : decodeLot (Crypto.Base64.encode data) = decompressLot data := by
  simp [decodeLot, Crypto.Base64.decode_encode, Except.mapError, Bind.bind, Except.bind]

/-- The archive of a deflate stream that fits in memory is within the reach of 64-bit offsets. -/
theorem archive_fits {level : Int} {bytes : Bytes} {d : Array UInt8} (hcodec : DeflateInverts level bytes)
    (hd : Deflate.compress level bytes.toArray = .ok d) :
    (entryBody (Text.encode lotEntryName) bytes d.toList).length +
      (entryDirectory (Text.encode lotEntryName) bytes d.toList).length < 2 ^ 63 := by
  have hsize := hcodec.fits d hd
  have h1 := entryBody_length (Text.encode lotEntryName) bytes d.toList
  have h2 := entryDirectory_length (Text.encode lotEntryName) bytes d.toList
  have hn : (Text.encode lotEntryName).length = 8 := by rw [lotEntryName_encode]; rfl
  simp only [hn, Array.length_toList] at h1 h2
  omega

/-- A payload that was made reads back as the bytes it was made from while they are within the
size limit, and as a compression failure past it. -/
theorem decodeLot_of_encodeLotBytes {level : Int} {bytes : Bytes} {p : String}
    (hcodec : DeflateInverts level bytes) (h : encodeLotBytes level bytes = .ok p) :
    (bytes.length ≤ maxLotSize → ∃ text, decodeLot p = .ok text ∧ Text.encode text = bytes) ∧
    (maxLotSize < bytes.length → ∃ e, decodeLot p = .error (.compression e)) := by
  obtain ⟨hv, d, hd, rfl⟩ := encodeLotBytes_eq_ok h
  have hround := decompressLot_archive bytes d.toList (hcodec.inflates d hd) (archive_fits hcodec hd) hv
  rw [decodeLot_encode]
  exact ⟨fun hsmall => ⟨_, hround.1 hsmall, encode_decodeLossy hv⟩, hround.2⟩

end EInvoice.Archive
