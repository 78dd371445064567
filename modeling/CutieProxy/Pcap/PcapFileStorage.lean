import CutieProxy.Lib.Memory
import CutieProxy.Lib.Records
import CutieProxy.Net.FrameBytes
import Mathlib.Data.List.TakeWhile

/-!
# The capture file

At the highest log level the router writes every frame the driver gives it to a file
(`pcap::pcap_file_storage`): a header when the file is opened, and for every frame a record header
with the time and the length, and the frame. Headers are written as they are in memory, low byte
first. A write may stop short, after which the stream takes nothing.

`readFile` is a reader of such files. It finds the frames that were written as a whole, in order,
with their times (`PcapFileStorage.capture_reads_back`).
-/

namespace CutieProxy.Pcap

open Records

/-! ## Headers -/

/-- `pcap_hdr_t`. -/
structure PcapHdr where
  magicNumber : UInt32
  versionMajor : UInt16
  versionMinor : UInt16
  thiszone : Int32
  sigfigs : UInt32
  snaplen : UInt32
  network : UInt32
  deriving DecidableEq, Repr

/-- `pcaprec_hdr_t`. -/
structure PcaprecHdr where
  tsSec : UInt32
  tsUsec : UInt32
  inclLen : UInt32
  origLen : UInt32
  deriving DecidableEq, Repr

/-- The memory of a `uint32_t`. -/
def memory32 (x : UInt32) : List UInt8 := Memory.toMemory 4 x.toNat

/-- The memory of a `uint16_t`. -/
def memory16 (x : UInt16) : List UInt8 := Memory.toMemory 2 x.toNat

/-- The memory of a `pcap_hdr_t`. -/
def PcapHdr.memory (h : PcapHdr) : List UInt8 :=
  memory32 h.magicNumber ++ memory16 h.versionMajor ++ memory16 h.versionMinor ++
    memory32 h.thiszone.toUInt32 ++ memory32 h.sigfigs ++ memory32 h.snaplen ++ memory32 h.network

/-- The memory of a `pcaprec_hdr_t`. -/
def PcaprecHdr.memory (h : PcaprecHdr) : List UInt8 :=
  memory32 h.tsSec ++ memory32 h.tsUsec ++ memory32 h.inclLen ++ memory32 h.origLen

/-- `LINKTYPE_ETHERNET`. -/
def linktypeEthernet : UInt32 := 1

/-- `pcap_file_header::pcap_file_header`. -/
def pcapFileHeader (versionMajor versionMinor : UInt16) (thisZone : Int32)
    (sigFigs snapLen network : UInt32) : PcapHdr :=
  ⟨0xa1b2c3d4, versionMajor, versionMinor, thisZone, sigFigs, snapLen, network⟩

/-- `pcap_record_header`: a header, and where the frame is. -/
structure PcapRecordHeader where
  header : PcaprecHdr
  data : IntermediateBuffer

/-- `operator<<` of a `pcap_record_header`: two writes, of which as much is taken as given. -/
def PcapRecordHeader.write (taken : Nat × Nat) (obj : PcapRecordHeader) (os : File UInt8) :
    File UInt8 :=
  (os.write taken.1 obj.header.memory).write taken.2 (obj.data.slice 0 obj.header.inclLen.toNat)

/-! ## `pcap_file_storage` -/

/-- `pcap_file_storage`: the file behind its stream. -/
structure PcapFileStorage where
  fileStream : File UInt8

/-- A frame that is written: the time since the first one, and how much is taken of the two parts
of its record. -/
structure Arrival where
  milliseconds : Nat
  buffer : IntermediateBuffer
  taken : Nat × Nat

namespace PcapFileStorage

/-- `open`: the file is emptied and gets its header. A stream without a file takes nothing. -/
def «open» (ndis : CNdisApi) (opened : Bool) (taken : Nat) : PcapFileStorage :=
  ⟨if opened then
    (⟨[], true⟩ : File UInt8).write taken
      (pcapFileHeader 2 4 0 0 ndis.maxEtherFrame linktypeEthernet).memory
  else ⟨[], false⟩⟩

/-- The record header that `operator<<` makes for a frame. -/
def recordHeader (secondsSinceEpoch : UInt32) (a : Arrival) : PcapRecordHeader :=
  let seconds := UInt32.ofNat (a.milliseconds / 1000) + secondsSinceEpoch
  let microsecondsRemain := UInt32.ofNat (a.milliseconds % 1000 * 1000)
  ⟨⟨seconds, microsecondsRemain, a.buffer.mLength, a.buffer.mLength⟩, a.buffer⟩

/-- `operator<<` of an `INTERMEDIATE_BUFFER`, under its lock. -/
def put (secondsSinceEpoch : UInt32) (storage : PcapFileStorage) (a : Arrival) : PcapFileStorage :=
  ⟨(recordHeader secondsSinceEpoch a).write a.taken storage.fileStream⟩

/-- The file after the frames of a run of the router. -/
def capture (ndis : CNdisApi) (secondsSinceEpoch : UInt32) (opened : Bool) (taken : Nat)
    (arrivals : List Arrival) : File UInt8 :=
  (arrivals.foldl (put secondsSinceEpoch) («open» ndis opened taken)).fileStream

end PcapFileStorage

/-! ## Reading a capture -/

/-- A record of a capture. -/
structure PcapRecord where
  header : PcaprecHdr
  data : List UInt8
  deriving DecidableEq, Repr

/-- The time of a record in microseconds. -/
def PcapRecord.micros (r : PcapRecord) : Nat :=
  r.header.tsSec.toNat * 1000000 + r.header.tsUsec.toNat

/-- The `uint32_t` with a number. -/
def read32 (i : Nat) (bytes : List UInt8) : UInt32 :=
  UInt32.ofNat (Memory.ofMemory (Memory.field 4 i bytes))

/-- The `uint16_t` with a number. -/
def read16 (i : Nat) (bytes : List UInt8) : UInt16 :=
  UInt16.ofNat (Memory.ofMemory (Memory.field 2 i bytes))

/-- The record at the start of some bytes. -/
def readRecord (bytes : List UInt8) : Option (PcapRecord × List UInt8) :=
  if bytes.length < 16 then none else
    let header : PcaprecHdr :=
      ⟨read32 0 bytes, read32 1 bytes, read32 2 bytes, read32 3 bytes⟩
    let rest := bytes.drop 16
    if rest.length < header.inclLen.toNat then none else
      some (⟨header, rest.take header.inclLen.toNat⟩, rest.drop header.inclLen.toNat)

/-- The header of a file. -/
def readHdr (bytes : List UInt8) : PcapHdr :=
  ⟨read32 0 bytes, read16 2 bytes, read16 3 bytes, (read32 2 bytes).toInt32, read32 3 bytes,
    read32 4 bytes, read32 5 bytes⟩

theorem read32_eq {i : Nat} {bytes : List UInt8} {x : UInt32}
    (h : Memory.field 4 i bytes = memory32 x) : read32 i bytes = x := by
  rw [read32, h, memory32, Memory.ofMemory_toMemory, Nat.mod_eq_of_lt x.toNat_lt,
    UInt32.ofNat_toNat]

theorem read16_eq {i : Nat} {bytes : List UInt8} {x : UInt16}
    (h : Memory.field 2 i bytes = memory16 x) : read16 i bytes = x := by
  rw [read16, h, memory16, Memory.ofMemory_toMemory, Nat.mod_eq_of_lt x.toNat_lt,
    UInt16.ofNat_toNat]

@[simp] theorem PcaprecHdr.length_memory (h : PcaprecHdr) : h.memory.length = 16 := rfl

@[simp] theorem PcapHdr.length_memory (h : PcapHdr) : h.memory.length = 24 := rfl

theorem readHdr_append (h : PcapHdr) (rest : List UInt8) : readHdr (h.memory ++ rest) = h := by
  simp only [readHdr]
  rw [read32_eq (x := h.magicNumber) rfl, read16_eq (x := h.versionMajor) rfl,
    read16_eq (x := h.versionMinor) rfl, read32_eq (x := h.thiszone.toUInt32) rfl,
    read32_eq (x := h.sigfigs) rfl, read32_eq (x := h.snaplen) rfl, read32_eq (x := h.network) rfl]
  rfl

theorem readRecord_append (h : PcaprecHdr) (rest : List UInt8) :
    readRecord (h.memory ++ rest) = if rest.length < h.inclLen.toNat then none else
      some (⟨h, rest.take h.inclLen.toNat⟩, rest.drop h.inclLen.toNat) := by
  have hlong : ¬ (h.memory ++ rest).length < 16 := by
    rw [List.length_append, PcaprecHdr.length_memory]
    omega
  have hrest : (h.memory ++ rest).drop 16 = rest := List.drop_left' h.length_memory
  rw [readRecord, if_neg hlong, read32_eq (x := h.tsSec) rfl, read32_eq (x := h.tsUsec) rfl,
    read32_eq (x := h.inclLen) rfl, read32_eq (x := h.origLen) rfl]
  simp only [hrest]

/-- The records of a capture: a header, and as many bytes as it says. -/
def recordFormat : Format PcapRecord UInt8 where
  encode r := r.header.memory ++ r.data
  read := readRecord
  Proper r := r.data.length = r.header.inclLen.toNat
  read_nil := rfl
  read_encode r rest hr := by
    rw [List.append_assoc, readRecord_append, List.length_append, if_neg (by omega),
      List.take_left' hr, List.drop_left' hr]
  read_torn r n hr hn := by
    rw [List.length_append, PcaprecHdr.length_memory] at hn
    by_cases hheader : n < 16
    · rw [readRecord, if_pos]
      rw [List.length_take]
      omega
    · have hn' : n = r.header.memory.length + (n - 16) := by
        rw [PcaprecHdr.length_memory]
        omega
      rw [hn', List.take_length_add_append, readRecord_append, if_pos]
      rw [List.length_take]
      omega

/-- A file that starts as a capture does, and its records. -/
def readFile (bytes : List UInt8) : Option (PcapHdr × List PcapRecord) :=
  if bytes.length < 24 then none
  else if (readHdr bytes).magicNumber = 0xa1b2c3d4 then
    some (readHdr bytes, recordFormat.readAll (bytes.drop 24))
  else none

theorem readFile_append {h : PcapHdr} (hmagic : h.magicNumber = 0xa1b2c3d4) (rest : List UInt8) :
    readFile (h.memory ++ rest) = some (h, recordFormat.readAll rest) := by
  have hlong : ¬ (h.memory ++ rest).length < 24 := by
    rw [List.length_append, PcapHdr.length_memory]
    omega
  rw [readFile, if_neg hlong, readHdr_append, if_pos hmagic, List.drop_left' h.length_memory]

namespace Arrival

/-- The record of a frame. -/
def record (secondsSinceEpoch : UInt32) (a : Arrival) : PcapRecord :=
  let h := (PcapFileStorage.recordHeader secondsSinceEpoch a).header
  ⟨h, a.buffer.slice 0 h.inclLen.toNat⟩

/-- Both parts of a record are taken as a whole. -/
def Whole (a : Arrival) : Prop := 16 ≤ a.taken.1 ∧ a.buffer.mLength.toNat ≤ a.taken.2

instance : DecidablePred Whole := fun a =>
  inferInstanceAs (Decidable (16 ≤ a.taken.1 ∧ a.buffer.mLength.toNat ≤ a.taken.2))

variable {secondsSinceEpoch : UInt32} {a : Arrival}

theorem proper_record : recordFormat.Proper (a.record secondsSinceEpoch) := by
  simp [recordFormat, record]

/-- How much is taken of a record. -/
def takenOf (a : Arrival) : Nat := if 16 ≤ a.taken.1 then 16 + a.taken.2 else a.taken.1

theorem fits_record : recordFormat.Fits (a.record secondsSinceEpoch, a.takenOf) ↔ a.Whole := by
  have hlength : (recordFormat.encode (a.record secondsSinceEpoch)).length =
      16 + a.buffer.mLength.toNat := by
    rw [recordFormat, List.length_append, PcaprecHdr.length_memory, record,
      IntermediateBuffer.length_slice]
    rfl
  rw [Format.Fits, hlength, Whole, takenOf]
  split <;> omega

/-- The time of a record: that of the first frame, in seconds, and the time since then. -/
theorem micros_record (h : a.milliseconds / 1000 + secondsSinceEpoch.toNat < 2 ^ 32) :
    (a.record secondsSinceEpoch).micros =
      secondsSinceEpoch.toNat * 1000000 + a.milliseconds * 1000 := by
  have hseconds : (UInt32.ofNat (a.milliseconds / 1000) + secondsSinceEpoch).toNat =
      a.milliseconds / 1000 + secondsSinceEpoch.toNat := by
    rw [UInt32.toNat_add, UInt32.toNat_ofNat', Nat.mod_eq_of_lt (by omega : _ / _ < _)]
    exact Nat.mod_eq_of_lt h
  have hmicros : (UInt32.ofNat (a.milliseconds % 1000 * 1000)).toNat =
      a.milliseconds % 1000 * 1000 := by
    rw [UInt32.toNat_ofNat']
    omega
  rw [PcapRecord.micros]
  show (UInt32.ofNat (a.milliseconds / 1000) + secondsSinceEpoch).toNat * 1000000 +
    (UInt32.ofNat (a.milliseconds % 1000 * 1000)).toNat = _
  rw [hseconds, hmicros]
  omega

end Arrival

namespace PcapFileStorage

variable {ndis : CNdisApi} {secondsSinceEpoch : UInt32} {taken : Nat} {arrivals : List Arrival}

theorem put_fileStream (storage : PcapFileStorage) (a : Arrival) :
    (put secondsSinceEpoch storage a).fileStream =
      storage.fileStream.write a.takenOf (recordFormat.encode (a.record secondsSinceEpoch)) :=
  File.write_write _ _ _ _ _

theorem fileStream_foldl (storage : PcapFileStorage) :
    (arrivals.foldl (put secondsSinceEpoch) storage).fileStream =
      recordFormat.writeAll storage.fileStream
        (arrivals.map fun a => (a.record secondsSinceEpoch, a.takenOf)) := by
  induction arrivals generalizing storage with
  | nil => rfl
  | cons a arrivals ih =>
    rw [List.foldl_cons, ih, put_fileStream, List.map_cons, Format.writeAll_cons]

/-- The frames that were written before a write stopped short. -/
def written (arrivals : List Arrival) : List Arrival := arrivals.takeWhile Arrival.Whole

theorem whole_records :
    recordFormat.whole (arrivals.map fun a => (a.record secondsSinceEpoch, a.takenOf)) =
      (written arrivals).map (Arrival.record secondsSinceEpoch) := by
  rw [Format.whole, List.takeWhile_map, List.map_map, written]
  have hfits : ((fun r => decide (recordFormat.Fits r)) ∘
      fun a : Arrival => (a.record secondsSinceEpoch, a.takenOf)) = fun a => decide a.Whole := by
    funext a
    exact decide_eq_decide.mpr Arrival.fits_record
  rw [hfits]
  rfl

/-- A file whose header could not be written is no capture, and takes no frame. -/
theorem readFile_capture_none {opened : Bool} (h : opened = false ∨ taken < 24) :
    readFile (capture ndis secondsSinceEpoch opened taken arrivals).bytes = none ∧
      (capture ndis secondsSinceEpoch opened taken arrivals).good = false := by
  have hopen : («open» ndis opened taken).fileStream.good = false ∧
      («open» ndis opened taken).fileStream.bytes.length < 24 := by
    cases opened with
    | false => exact ⟨rfl, Nat.zero_lt_succ 23⟩
    | true =>
      have htaken : taken < 24 := h.resolve_left Bool.noConfusion
      rw [«open», if_pos rfl, File.write_of_good rfl, PcapHdr.length_memory]
      exact ⟨decide_eq_false (Nat.not_le_of_lt htaken), by simpa using htaken⟩
  rw [capture, fileStream_foldl, Format.writeAll_of_not_good hopen.1, readFile, if_pos hopen.2]
  exact ⟨rfl, hopen.1⟩

/-- A capture whose header was written reads back as the frames that were written as a whole. -/
theorem readFile_capture_some (ndis : CNdisApi) (secondsSinceEpoch : UInt32)
    (arrivals : List Arrival) (htaken : 24 ≤ taken) :
    ∃ records, readFile (capture ndis secondsSinceEpoch true taken arrivals).bytes =
        some (pcapFileHeader 2 4 0 0 ndis.maxEtherFrame linktypeEthernet, records) ∧
      records.map PcapRecord.data =
        (written arrivals).map (fun a => a.buffer.slice 0 a.buffer.mLength.toNat) ∧
      ((∀ a ∈ arrivals, a.milliseconds / 1000 + secondsSinceEpoch.toNat < 2 ^ 32) →
        records.map PcapRecord.micros = (written arrivals).map
          fun a => secondsSinceEpoch.toNat * 1000000 + a.milliseconds * 1000) ∧
      ((capture ndis secondsSinceEpoch true taken arrivals).good = true ↔
        written arrivals = arrivals) := by
  have hopen : («open» ndis true taken).fileStream =
      ⟨(pcapFileHeader 2 4 0 0 ndis.maxEtherFrame linktypeEthernet).memory, true⟩ := by
    rw [«open», if_pos rfl, File.write_of_good rfl, PcapHdr.length_memory, decide_eq_true htaken,
      List.take_of_length_le htaken, List.nil_append]
  have hcapture : capture ndis secondsSinceEpoch true taken arrivals =
      recordFormat.writeAll («open» ndis true taken).fileStream
        (arrivals.map fun a => (a.record secondsSinceEpoch, a.takenOf)) := fileStream_foldl _
  rw [hopen] at hcapture
  obtain ⟨bytes, hbytes, hread⟩ := Format.readAll_file (f := recordFormat)
    (arrivals.map fun a => (a.record secondsSinceEpoch, a.takenOf))
    (s := ⟨(pcapFileHeader 2 4 0 0 ndis.maxEtherFrame linktypeEthernet).memory, true⟩)
    (fun r hr => by
      obtain ⟨a, -, rfl⟩ := List.mem_map.mp hr
      exact Arrival.proper_record) rfl
  refine ⟨(written arrivals).map (Arrival.record secondsSinceEpoch), ?_, ?_, fun hwrap => ?_, ?_⟩
  · rw [hcapture, hbytes, readFile_append rfl, hread, whole_records]
  · rw [List.map_map]
    rfl
  · rw [List.map_map]
    exact List.map_congr_left fun a ha =>
      Arrival.micros_record (hwrap a ((List.takeWhile_sublist _).subset ha))
  · rw [hcapture, Format.good_writeAll rfl, List.forall_mem_map, written,
      List.takeWhile_eq_self_iff]
    simp only [Arrival.fits_record, decide_eq_true_eq]

/-- A capture reads back as the frames that were written as a whole, in order: their bytes, and
their times in microseconds while these fit. They are all of them just while the stream is good. A
file that could not be opened, or took less than its header, is no capture, and its stream is not
good. -/
theorem capture_reads_back (ndis : CNdisApi) (secondsSinceEpoch : UInt32) (opened : Bool)
    (taken : Nat) (arrivals : List Arrival) :
    (opened = true ∧ 24 ≤ taken → ∃ records,
      readFile (capture ndis secondsSinceEpoch opened taken arrivals).bytes =
        some (pcapFileHeader 2 4 0 0 ndis.maxEtherFrame linktypeEthernet, records) ∧
      records.map PcapRecord.data =
        (written arrivals).map (fun a => a.buffer.slice 0 a.buffer.mLength.toNat) ∧
      ((∀ a ∈ arrivals, a.milliseconds / 1000 + secondsSinceEpoch.toNat < 2 ^ 32) →
        records.map PcapRecord.micros = (written arrivals).map
          fun a => secondsSinceEpoch.toNat * 1000000 + a.milliseconds * 1000) ∧
      ((capture ndis secondsSinceEpoch opened taken arrivals).good = true ↔
        written arrivals = arrivals)) ∧
    (opened = false ∨ taken < 24 →
      readFile (capture ndis secondsSinceEpoch opened taken arrivals).bytes = none ∧
        (capture ndis secondsSinceEpoch opened taken arrivals).good = false) := by
  refine ⟨?_, readFile_capture_none⟩
  rintro ⟨rfl, htaken⟩
  exact readFile_capture_some ndis secondsSinceEpoch arrivals htaken

/-- The disk takes two frames, and only the header of the third; another one is full after 23 bytes
of the file's header. -/
theorem capture_reads_back_full : (∃ records,
    readFile (capture CNdisApi.plain 1700000000 true 24 [⟨0, ⟨2, UInt8.ofNat⟩, 16, 2⟩,
      ⟨1234, ⟨3, UInt8.ofNat⟩, 16, 3⟩, ⟨1235, ⟨4, UInt8.ofNat⟩, 16, 0⟩]).bytes =
        some (pcapFileHeader 2 4 0 0 1514 linktypeEthernet, records) ∧
      records.map PcapRecord.data = [[0, 1], [0, 1, 2]] ∧
      records.map PcapRecord.micros = [1700000000000000, 1700000001234000]) ∧
    readFile (capture CNdisApi.plain 1700000000 true 23 [⟨0, ⟨2, UInt8.ofNat⟩, 16, 2⟩]).bytes =
      none := by
  obtain ⟨hsome, -⟩ := capture_reads_back CNdisApi.plain 1700000000 true 24
    [⟨0, ⟨2, UInt8.ofNat⟩, 16, 2⟩, ⟨1234, ⟨3, UInt8.ofNat⟩, 16, 3⟩,
      ⟨1235, ⟨4, UInt8.ofNat⟩, 16, 0⟩]
  obtain ⟨-, hnone⟩ := capture_reads_back CNdisApi.plain 1700000000 true 23
    [⟨0, ⟨2, UInt8.ofNat⟩, 16, 2⟩]
  obtain ⟨records, hread, hdata, hmicros, -⟩ := hsome ⟨rfl, Nat.le_refl 24⟩
  exact ⟨⟨records, hread, hdata.trans (by decide), (hmicros (by decide)).trans (by decide)⟩,
    (hnone (Or.inr (by decide))).1⟩

end PcapFileStorage

end CutieProxy.Pcap
