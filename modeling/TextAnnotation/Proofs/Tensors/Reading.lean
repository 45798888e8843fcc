import TextAnnotation.Proofs.Decimal.Exact
import TextAnnotation.Proofs.Json.Pretty
import TextAnnotation.Proofs.Text.Words
import TextAnnotation.Tensors

/-!
# Reading a file with one table

* `natOfBytes_bytesOfNat`: numbers as bytes are read back.
* `numbers_of_toList`: so are the numbers of a tensor that stand one behind the other.
* `parse_headerText`, `headers?_row`: the header says where the table is.
* `ofBytes?_fileOfRows`: the table in which every entry is the number of its row.
-/

namespace TextAnnotation.Tensor

open Json (Value)

/-! ## Bytes -/

theorem toList_loop_eq (bytes : ByteArray) (i : Nat) (done : List UInt8) :
    ByteArray.toList.loop bytes i done = done.reverse ++ bytes.data.toList.drop i := by
  induction hn : bytes.size - i generalizing i done with
  | zero =>
    have hnone : bytes.data.toList.drop i = [] := by
      apply List.drop_eq_nil_of_le
      rw [Array.length_toList, ByteArray.size_data]
      omega
    rw [ByteArray.toList.loop, if_neg (by omega), hnone, List.append_nil]
  | succ n ih =>
    have hi : i < bytes.data.toList.length := by
      rw [Array.length_toList, ByteArray.size_data]
      omega
    have hget : bytes.get! i = bytes.data.toList[i] := getElem!_pos bytes.data i (by simpa using hi)
    rw [ByteArray.toList.loop, if_pos (by omega), ih (i + 1) _ (by omega), List.drop_eq_getElem_cons hi, hget]
    simp

theorem toList_eq (bytes : ByteArray) : bytes.toList = bytes.data.toList :=
  toList_loop_eq bytes 0 []

/-- What stands behind `front` in some bytes. -/
theorem data_extract_of_append {bytes : ByteArray} {front part rest : List UInt8}
    (h : bytes.data.toList = front ++ (part ++ rest)) (stop : Nat) (hstop : stop = front.length + part.length) :
    (bytes.extract front.length stop).data.toList = part := by
  rw [ByteArray.data_extract, Array.toList_extract, h, hstop, List.extract_eq_take_drop,
    List.drop_left, Nat.add_sub_cancel_left, List.take_left]

theorem length_bytesOfNat (count n : Nat) : (bytesOfNat count n).length = count := by
  induction count generalizing n with
  | zero => rfl
  | succ count ih => rw [bytesOfNat, List.length_cons, ih]

theorem natOfBytes_bytesOfNat {count n : Nat} (h : n < 256 ^ count) : natOfBytes (bytesOfNat count n) = n := by
  induction count generalizing n with
  | zero =>
    rw [Nat.pow_zero, Nat.lt_one_iff] at h
    rw [h]
    rfl
  | succ count ih =>
    have hrest : n / 256 < 256 ^ count := Nat.div_lt_of_lt_mul (by rwa [Nat.pow_succ, Nat.mul_comm] at h)
    rw [bytesOfNat, natOfBytes, ih hrest, UInt8.toNat_ofNat']
    omega

/-- Numbers that stand one behind the other are all read. -/
theorem numbers_of_toList (f : Format) {bytes : ByteArray} {ns : List Nat} (hns : ∀ n ∈ ns, n < 256 ^ f.size)
    {front rest : List UInt8} (h : bytes.data.toList = front ++ (ns.flatMap (bytesOfNat f.size) ++ rest))
    (done : Array Float32) :
    numbers f bytes front.length ns.length done = done ++ (ns.map f.single).toArray := by
  induction ns generalizing front done with
  | nil => simp [numbers]
  | cons n ns ih =>
    obtain ⟨hn, hns⟩ := List.forall_mem_cons.mp hns
    rw [List.flatMap_cons, List.append_assoc] at h
    have hfirst := data_extract_of_append h (front.length + f.size) (by rw [length_bytesOfNat])
    rw [← List.append_assoc] at h
    have hmore := ih hns h (done.push (f.single n))
    rw [List.length_append, length_bytesOfNat] at hmore
    rw [List.length_cons, numbers]
    simp only [toList_eq, hfirst, natOfBytes_bytesOfNat hn, hmore]
    simp

/-! ## The header -/

def rowTensor (rows width : Nat) : Value :=
  .object [
    ("dtype", .string "F32"),
    ("shape", .array [.nat rows, .nat width]),
    ("data_offsets", .array [.nat 0, .nat (rows * width * 4)])]

/-- The same with its members in the order of their names. -/
def sortedTensor (rows width : Nat) : Value :=
  .object [
    ("data_offsets", .array [.nat 0, .nat (rows * width * 4)]),
    ("dtype", .string "F32"),
    ("shape", .array [.nat rows, .nat width])]

def rowFormat : Format :=
  ⟨"F32", 4, fun n => Float32.ofBits (UInt32.ofNat n)⟩

theorem headerText_eq (name : String) (rows width : Nat) :
    ∃ count < 8, headerText name rows width =
      (Value.object [(name, rowTensor rows width)]).compact ++ List.replicate count ' ' :=
  ⟨_, Nat.mod_lt _ (by decide), rfl⟩

theorem ofList_rowTensor (dtype shape offsets : Value) :
    Keyed.ofList [("dtype", dtype), ("shape", shape), ("data_offsets", offsets)] =
      [("data_offsets", offsets), ("dtype", dtype), ("shape", shape)] := by
  have hshape : ¬"shape" < "dtype" := by decide
  have hoffsets : "data_offsets" < "dtype" := by decide
  simp [Keyed.ofList, Keyed.insert, hshape, hoffsets]

theorem settled_nats {n m : Nat} (hn : n < UInt64.size) (hm : m < UInt64.size) (depth : Nat) :
    (Value.array [.nat n, .nat m]).Settled (depth + 1) := by
  apply Json.settled_array
  simp only [List.forall_mem_cons]
  exact ⟨(Json.exact_nat hn).settled _, (Json.exact_nat hm).settled _, by simp⟩

theorem size?_nat {n : Nat} (h : n < UInt64.size) : (Value.nat n).size? = some n :=
  Json.nat?_nat h

section Header

variable {rows width : Nat} (hrows : rows < UInt64.size) (hwidth : width < UInt64.size)
  (hsize : rows * width * 4 < UInt64.size)

include hrows hwidth hsize

theorem parse_headerText (name : String) :
    Value.parse (headerText name rows width) = .ok (.object [(name, sortedTensor rows width)]) := by
  have hmembers : ∀ m ∈ [("dtype", Value.string "F32"), ("shape", .array [.nat rows, .nat width]),
      ("data_offsets", .array [.nat 0, .nat (rows * width * 4)])], m.2.Settled 125 := by
    simp only [List.forall_mem_cons]
    exact ⟨(Json.exact_string _).settled _, settled_nats hrows hwidth _, settled_nats (by decide) hsize _, by simp⟩
  have hsorted := Json.value_object fun m hm => (hmembers m hm).value
  rw [ofList_rowTensor] at hsorted
  have htensor : (rowTensor rows width).tree.value 126 = .ok (sortedTensor rows width) := hsorted
  have hreread : (Value.object [(name, rowTensor rows width)]).reread =
      (Value.object [(name, rowTensor rows width)]).tree := by
    apply Json.reread_object_eq_tree
    rw [List.forall_mem_singleton]
    exact Json.reread_object_eq_tree fun m hm => (hmembers m hm).reread
  obtain ⟨count, -, htext⟩ := headerText_eq name rows width
  have hspaces : Json.Blanks (List.replicate count ' ') := by
    intro c hc
    rw [List.eq_of_mem_replicate hc]
    rfl
  have hspells := (Json.spells_reread (Value.object [(name, rowTensor rows width)])).padded Json.blanks_nil hspaces
  rw [List.nil_append, ← htext, hreread] at hspells
  rw [Json.parse_of_spells hspells]
  simp only [Json.maxDepth, Value.tree, Json.Tree.value, Json.memberTrees, Json.memberValues, htensor, bind,
    Except.bind]
  rfl

theorem headers?_row {name : String} (hname : name ≠ notesName) :
    headers? (.object [(name, sortedTensor rows width)]) =
      some [⟨name, rowFormat, [rows, width], 0, rows * width * 4⟩] := by
  have hheader : header? name (sortedTensor rows width) =
      some ⟨name, rowFormat, [rows, width], 0, rows * width * 4⟩ := by
    have htype : (sortedTensor rows width).get "dtype" = .string "F32" := rfl
    have hshape : (sortedTensor rows width).get "shape" = .array [.nat rows, .nat width] := rfl
    have hoffsets : (sortedTensor rows width).get "data_offsets" =
        .array [.nat 0, .nat (rows * width * 4)] := rfl
    have hformat : formats.find? (·.name == "F32") = some rowFormat := rfl
    simp [header?, htype, hshape, hoffsets, hformat, size?_nat hrows, size?_nat hwidth, size?_nat hsize,
      size?_nat (show 0 < UInt64.size by decide)]
  have hnotes : (Value.object [(name, sortedTensor rows width)]).get notesName = .null := by
    simp [Value.get, Value.member?, List.lookup_cons, beq_false_of_ne (Ne.symm hname)]
  rw [headers?, hnotes]
  simp [isNotes, hname, hheader]

end Header

/-! ## The length of the header -/

theorem byteLength_le (cs : List Char) : Text.byteLength cs ≤ 4 * cs.length := by
  induction cs with
  | nil => exact Nat.le_refl 0
  | cons c cs ih =>
    have hc := c.utf8Size_le_four
    rw [Text.byteLength_cons, List.length_cons]
    omega

theorem length_compact_nat {n : Nat} (h : n < UInt64.size) : (Value.nat n).compact.length ≤ 20 := by
  have hdigits : (Value.nat n).compact = Nat.toDigits 10 n := by
    rw [Value.nat, Value.compact, Json.Number.text, Json.integerText, if_neg (by omega), Int.natAbs_natCast]
    rfl
  rw [hdigits, Nat.length_toDigits_le_iff (by decide) (by decide)]
  exact Nat.lt_trans h (by decide)

/-- The header is short enough to be read, if the name of the table is. -/
theorem size_headerText {rows width : Nat} (hrows : rows < UInt64.size) (hwidth : width < UInt64.size)
    (hsize : rows * width * 4 < UInt64.size) (name : String) :
    (String.ofList (headerText name rows width)).toUTF8.size ≤ 4 * ((Json.quote name).length + 150) := by
  obtain ⟨count, hcount, htext⟩ := headerText_eq name rows width
  have hrows := length_compact_nat hrows
  have hwidth := length_compact_nat hwidth
  have hsize := length_compact_nat hsize
  have hzero : (Value.nat 0).compact.length = 1 := rfl
  have hnames : (Json.quote "dtype").length = 7 ∧ (Json.quote "F32").length = 5 ∧
      (Json.quote "shape").length = 7 ∧ (Json.quote "data_offsets").length = 14 := by decide
  have hlength : (headerText name rows width).length ≤ (Json.quote name).length + 150 := by
    rw [htext]
    simp only [rowTensor, Value.compact, Json.compactMembers, Json.compactItems, List.length_append,
      List.length_cons, List.length_nil, List.length_replicate, hnames]
    omega
  rw [String.toUTF8_eq_toByteArray, String.size_toByteArray, Text.utf8ByteSize_ofList]
  exact Nat.le_trans (byteLength_le _) (Nat.mul_le_mul_left 4 hlength)

/-! ## The table -/

def rowEntries (rows width : Nat) : List Float32 :=
  (List.range rows).flatMap fun (i : Nat) => List.replicate width (Decimal.singleOfInt i)

def rowWords (rows width : Nat) : List Nat :=
  (rowEntries rows width).map fun x => x.toBits.toNat

theorem length_rowEntries (rows width : Nat) : (rowEntries rows width).length = rows * width := by
  simp [rowEntries, List.length_flatMap]

theorem length_rowWords (rows width : Nat) : (rowWords rows width).length = rows * width := by
  rw [rowWords, List.length_map, length_rowEntries]

theorem rowBytes_eq (rows width : Nat) : rowBytes rows width = (rowWords rows width).flatMap (bytesOfNat 4) := by
  rw [rowBytes, rowWords, rowEntries, List.map_flatMap, List.flatMap_assoc]
  simp only [List.map_replicate, List.flatMap_def]

theorem lt_of_mem_rowWords (rows width : Nat) : ∀ n ∈ rowWords rows width, n < 256 ^ rowFormat.size := by
  intro n hn
  obtain ⟨x, -, rfl⟩ := List.mem_map.mp hn
  exact x.toBits.toNat_lt

theorem map_single_rowWords {rows : Nat} (hrows : rows ≤ 2 ^ 24) (width : Nat) :
    (rowWords rows width).map rowFormat.single = rowEntries rows width := by
  rw [rowWords, List.map_map]
  refine (List.map_congr_left fun x hx => ?_).trans (List.map_id _)
  obtain ⟨i, hi, hx⟩ := List.mem_flatMap.mp hx
  obtain rfl := List.eq_of_mem_replicate hx
  change Float32.ofBits (UInt32.ofNat (Decimal.singleOfInt i).toBits.toNat) = _
  rw [UInt32.ofNat_toNat, Decimal.ofBits_toBits_singleOfInt (Nat.lt_of_lt_of_le (List.mem_range.mp hi) hrows)]
  rfl

theorem length_rowBytes (rows width : Nat) : (rowBytes rows width).length = rows * width * 4 := by
  rw [rowBytes_eq, List.length_flatMap]
  simp only [length_bytesOfNat, List.map_const', List.sum_replicate, length_rowWords, Nat.nsmul_eq_mul]

theorem data_fileOfRows (name : String) (rows width : Nat) :
    (fileOfRows name rows width).data.toList =
      bytesOfNat 8 (String.ofList (headerText name rows width)).toUTF8.size ++
        ((String.ofList (headerText name rows width)).toUTF8.data.toList ++ rowBytes rows width) := by
  simp [fileOfRows]

theorem covers_row {rows width : Nat} (hrows : rows < UInt64.size) (hcount : rows * width < UInt64.size)
    (name : String) :
    covers 0 (rows * width * 4) [⟨name, rowFormat, [rows, width], 0, rows * width * 4⟩] = true := by
  have hcount : count? [rows, width] = some (rows * width) := by
    simp [count?, hrows, hcount]
  simp [covers, hcount, rowFormat]

theorem ofBytes?_fileOfRows {name : String} {rows width : Nat} (hname : name ≠ notesName)
    (hrows : rows ≤ 2 ^ 24) (hwidth : width < UInt64.size) (hsize : rows * width * 4 < UInt64.size)
    (hheader : (String.ofList (headerText name rows width)).toUTF8.size ≤ maxHeader) :
    ofBytes? (fileOfRows name rows width) =
      some [(name, ⟨[rows, width], (rowEntries rows width).toArray⟩)] := by
  have hbound : rows < UInt64.size := Nat.lt_of_le_of_lt hrows (by decide)
  have hdata := data_fileOfRows name rows width
  generalize hfile : fileOfRows name rows width = file at hdata
  generalize htext : (String.ofList (headerText name rows width)).toUTF8 = text at hdata hheader
  have hlength : file.size = 8 + (text.size + rows * width * 4) := by
    rw [← ByteArray.size_data, ← Array.length_toList, hdata, List.length_append, List.length_append,
      length_bytesOfNat, length_rowBytes, Array.length_toList, ByteArray.size_data]
  have hrest : file.size - 8 - text.size = rows * width * 4 := by omega
  have hfirst : natOfBytes (file.extract 0 8).toList = text.size := by
    have hbytes : (file.extract 0 8).data.toList = bytesOfNat 8 text.size :=
      @data_extract_of_append file [] _ _ hdata 8 (by rw [length_bytesOfNat, List.length_nil, Nat.zero_add])
    have hbound : maxHeader < 256 ^ 8 := by decide
    rw [toList_eq, hbytes, natOfBytes_bytesOfNat (Nat.lt_of_le_of_lt hheader hbound)]
  have hmiddle : file.extract 8 (8 + text.size) = text := by
    have := data_extract_of_append hdata (8 + text.size)
      (by rw [length_bytesOfNat, Array.length_toList, ByteArray.size_data])
    rw [length_bytesOfNat] at this
    exact ByteArray.ext (Array.toList_inj.mp this)
  have hlast : numbers rowFormat file (8 + text.size) (rows * width) #[] = (rowEntries rows width).toArray := by
    rw [← List.append_assoc, rowBytes_eq] at hdata
    have := @numbers_of_toList rowFormat file (rowWords rows width) (lt_of_mem_rowWords rows width) _ []
      (by rw [List.append_nil]; exact hdata) #[]
    rw [List.length_append, length_bytesOfNat, Array.length_toList, ByteArray.size_data, length_rowWords,
      map_single_rowWords hrows, Array.empty_append] at this
    exact this
  have hread : String.fromUTF8? text = some (String.ofList (headerText name rows width)) := by
    rw [← htext, Text.fromUTF8?_toUTF8]
  have hcovers := covers_row hbound (show rows * width < UInt64.size by omega) name
  simp only [ofBytes?, hfirst, hmiddle, hread, hrest, String.toList_ofList, parse_headerText hbound hwidth hsize,
    headers?_row hbound hwidth hsize hname, Except.toOption, Option.bind_eq_bind, Option.bind_some,
    List.mergeSort_singleton, hcovers]
  simp [hlength, hheader, hlast]

end TextAnnotation.Tensor
