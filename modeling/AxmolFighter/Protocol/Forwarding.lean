import AxmolFighter.Lib.Wire
import AxmolFighter.Protocol.Message

/-!
# `ForwardToServerReq` on the wire

The fields of the message and their standard sizes. The code that writes and reads it is generated, on both
sides; `write` and `read` are what it does with the messages that are written here.
-/

namespace AxmolFighter

/-- A field that is left out if it has the default. -/
def numberField (number n : Nat) : List Wire.Field := if n = 0 then [] else [⟨number, .number n⟩]

def bytesField (number : Nat) (b : Bytes) : List Wire.Field := if b = [] then [] else [⟨number, .bytes b⟩]

/-- `int32`: a negative number is written with 64 bits. -/
def int32Number (n : Int32) : Nat := if n < 0 then n.toUInt32.toNat + (2 ^ 64 - 2 ^ 32) else n.toUInt32.toNat

theorem int32_of_number (n : Int32) : (UInt32.ofNat (int32Number n)).toInt32 = n := by
  have h : UInt32.ofNat (int32Number n) = n.toUInt32 := by
    rw [← UInt32.toNat_inj, UInt32.toNat_ofNat', int32Number]
    have hlt := n.toUInt32.toNat_lt
    split_ifs <;> omega
  rw [h, Int32.toInt32_toUInt32]

theorem foldl_numberField {α : Type} {set : α → Wire.Field → α} (number : Nat) {n : Nat} {a : α} (a' : α)
    (hzero : n = 0 → a = a') (hset : set a ⟨number, .number n⟩ = a') :
    (numberField number n).foldl set a = a' := by
  rw [numberField]
  split_ifs with hn
  · exact hzero hn
  · exact hset

theorem valid_numberField {number n : Nat} (hnumber : number < 16) (hn : n < 128 ^ 10) :
    ∀ f ∈ numberField number n, f.Valid := by
  intro f hf
  rw [numberField] at hf
  split_ifs at hf
  · cases hf
  · obtain rfl := List.mem_singleton.1 hf
    exact ⟨hnumber, hn⟩

namespace ForwardToServerReq

def fields (req : ForwardToServerReq) : List Wire.Field :=
  numberField 1 req.targetServiceId.toNat ++ (numberField 2 (int32Number req.targetInstanceId) ++
    (bytesField 3 req.payload ++ (numberField 4 req.sourceServiceId.toNat ++
      numberField 5 req.sourceInstanceId.toNat)))

def wireSize (req : ForwardToServerReq) : Nat := (req.fields.map Wire.Field.size).sum

def write (req : ForwardToServerReq) : Bytes := Wire.putAll req.fields

/-- A field of the message is taken over; the rest is skipped. -/
def set (req : ForwardToServerReq) (f : Wire.Field) : ForwardToServerReq :=
  match f with
  | ⟨1, .number n⟩ => { req with targetServiceId := UInt32.ofNat n }
  | ⟨2, .number n⟩ => { req with targetInstanceId := (UInt32.ofNat n).toInt32 }
  | ⟨3, .bytes b⟩ => { req with payload := b }
  | ⟨4, .number n⟩ => { req with sourceServiceId := UInt32.ofNat n }
  | ⟨5, .number n⟩ => { req with sourceInstanceId := UInt32.ofNat n }
  | _ => req

def read (bytes : Bytes) : Except String ForwardToServerReq :=
  match Wire.getAll bytes.length bytes with
  | some fs => .ok (fs.foldl set ⟨0, 0, [], 0, 0⟩)
  | none => .error "failed to decode Protobuf message"

theorem foldl_fields (req : ForwardToServerReq) : req.fields.foldl set ⟨0, 0, [], 0, 0⟩ = req := by
  obtain ⟨svc, inst, payload, source, sourceInst⟩ := req
  simp only [fields, List.foldl_append]
  have hint : int32Number inst = 0 → inst = 0 := fun hzero => by
    rw [← int32_of_number inst, hzero]
    rfl
  have hu : ∀ n : UInt32, n.toNat = 0 → n = 0 := fun n hzero => UInt32.toNat_inj.1 hzero
  rw [foldl_numberField 1 ⟨svc, 0, [], 0, 0⟩ (fun h => by rw [hu svc h]) (by simp [set]),
    foldl_numberField 2 ⟨svc, inst, [], 0, 0⟩ (fun h => by rw [hint h]) (by simp only [set, int32_of_number])]
  have hpayload : (bytesField 3 payload).foldl set ⟨svc, inst, [], 0, 0⟩ = ⟨svc, inst, payload, 0, 0⟩ := by
    rw [bytesField]
    split_ifs with hnil
    · rw [hnil]
      rfl
    · rfl
  rw [hpayload, foldl_numberField 4 ⟨svc, inst, payload, source, 0⟩ (fun h => by rw [hu source h]) (by simp [set]),
    foldl_numberField 5 ⟨svc, inst, payload, source, sourceInst⟩ (fun h => by rw [hu sourceInst h]) (by simp [set])]

variable {req : ForwardToServerReq}

theorem int32Number_lt (n : Int32) : int32Number n < 128 ^ 10 := by
  have hlt := n.toUInt32.toNat_lt
  rw [int32Number]
  split_ifs <;> omega

theorem valid_fields (h : req.payload.length < 2 ^ 31) : ∀ f ∈ req.fields, f.Valid := by
  have hu : ∀ n : UInt32, n.toNat < 128 ^ 10 := fun n => n.toNat_lt.trans (by omega)
  have hbytes : ∀ f ∈ bytesField 3 req.payload, f.Valid := by
    intro f hf
    rw [bytesField] at hf
    split_ifs at hf
    · cases hf
    · obtain rfl := List.mem_singleton.1 hf
      exact ⟨show 3 < 16 by omega, h.trans (by omega)⟩
  simp only [fields, List.forall_mem_append]
  exact ⟨valid_numberField (by omega) (hu _), valid_numberField (by omega) (int32Number_lt _), hbytes,
    valid_numberField (by omega) (hu _), valid_numberField (by omega) (hu _)⟩

theorem length_write (h : req.payload.length < 2 ^ 31) : req.write.length = req.wireSize :=
  Wire.length_putAll (valid_fields h)

theorem read_write (h : req.payload.length < 2 ^ 31) : read req.write = .ok req := by
  rw [read, write, Wire.getAll_putAll (valid_fields h) (Wire.length_le_putAll _)]
  exact congrArg Except.ok (foldl_fields req)

/-! ### Bounds -/

theorem size_le {n : Nat} (h : n < 128 ^ 10) : Varint.size n ≤ 10 := by
  rw [Varint.size]
  have hlog : Nat.log 128 n < 10 := Nat.log_lt_of_lt_pow' (by omega) h
  omega

theorem size_numberField {number n : Nat} (h : n < 128 ^ 10) :
    ((numberField number n).map Wire.Field.size).sum ≤ 11 := by
  rw [numberField]
  split_ifs
  · exact Nat.zero_le _
  · have hsize := size_le h
    simp only [List.map_singleton, List.sum_singleton, Wire.Field.size, Wire.Value.count, Wire.Value.content,
      List.length_nil]
    omega

theorem wireSize_bounds (h : req.payload.length < 2 ^ 31) :
    req.payload.length ≤ req.wireSize ∧ req.wireSize ≤ req.payload.length + 55 := by
  have hu : ∀ number (n : UInt32), ((numberField number n.toNat).map Wire.Field.size).sum ≤ 11 :=
    fun _ n => size_numberField (n.toNat_lt.trans (by omega))
  have h1 := hu 1 req.targetServiceId
  have h2 : ((numberField 2 (int32Number req.targetInstanceId)).map Wire.Field.size).sum ≤ 11 :=
    size_numberField (int32Number_lt req.targetInstanceId)
  have h4 := hu 4 req.sourceServiceId
  have h5 := hu 5 req.sourceInstanceId
  have h3 : req.payload.length ≤ ((bytesField 3 req.payload).map Wire.Field.size).sum ∧
      ((bytesField 3 req.payload).map Wire.Field.size).sum ≤ req.payload.length + 11 := by
    rw [bytesField]
    split_ifs with hnil
    · rw [hnil]
      exact ⟨Nat.le_refl _, Nat.zero_le _⟩
    · have hsize := size_le (n := req.payload.length) (h.trans (by omega))
      simp only [List.map_singleton, List.sum_singleton, Wire.Field.size, Wire.Value.count, Wire.Value.content]
      omega
  simp only [wireSize, fields, List.map_append, List.sum_append]
  omega

end ForwardToServerReq

/-- The generated code writes the messages in their standard sizes and reads them back; protocol buffers have
less than 2 GiB. -/
structure MessageMap.Forwards (m : MessageMap) (write : ForwardToServerReq → Bytes) : Prop where
  length : ∀ req, req.payload.length < 2 ^ 31 → (write req).length = req.wireSize
  decode : ∀ req, req.payload.length < 2 ^ 31 →
    m.decode forwardToServerReqId (write req) = .ok (.forwardToServerReq req)

end AxmolFighter
