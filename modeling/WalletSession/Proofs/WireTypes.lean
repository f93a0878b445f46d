import WalletSession.Proofs.Permission.RoundTrip
import WalletSession.Proofs.Session.RoundTrip
import WalletSession.Rpc.Notification

set_option autoImplicit false

/-! # What goes over the wire is read back as written

Notifications and errors are read back from their records, a message also from among the fields that mark it for the
wire. With requests and permissions these are all types that are written for others to read, and none of them
loses anything on the way (`decoding_undoes_encoding`). -/

namespace WalletSession

open Json

/-! ## Notifications -/

namespace Notification

theorem reads_params (params : Json) :
    paramsField.Reads (if params.isNull then none else some params) params := by
  cases params <;> rfl

/-- The fields that a notification is written with. -/
def writtenFields (n : Notification) : List WrittenField := [
  ⟨methodField, some (.string n.method), n.method, rfl⟩,
  ⟨paramsField, if n.params.isNull then none else some n.params, n.params, reads_params n.params⟩]

/-- A notification is read among other fields. -/
theorem decodeAs_among (reading : Reading) (others : List WrittenField)
    (hnames : (others.map (·.field.name) ++ shape.names).Nodup) (n : Notification) :
    decodeAs reading (.ofFields (written others ++ n.fields)) = .ok n := by
  obtain ⟨source, hsource, hfield, hend⟩ :=
    RecordShape.exists_source_among shape n.writtenFields others (fun _ => rfl) rfl hnames reading
  simp only [writtenFields, List.forall_mem_cons, List.not_mem_nil, false_imp_iff, implies_true,
    and_true] at hfield
  obtain ⟨hmethod, hparams⟩ := hfield
  have hrecord : shape.source (.ofFields (written others ++ n.fields)) = .ok source := by
    rwa [written, List.map_append] at hsource
  simp only [decodeAs, bind, Except.bind, hrecord, hmethod, hparams, hend]
  rfl

theorem decodeAs_toJson (reading : Reading) : Undoes (decodeAs reading) toJson :=
  decodeAs_among reading [] (by decide)

end Notification

namespace ScopedNotification

/-- The fields that it is written with what a message says. -/
def writtenFields (reading : Reading) (s : ScopedNotification) : List WrittenField := [
  ⟨scopeField, some (.string s.scope), s.scope, rfl⟩,
  ⟨notificationField reading, some s.notification.toJson, s.notification,
    Notification.decodeAs_toJson reading s.notification⟩]

theorem decodeAs_toJson (reading : Reading) : Undoes (decodeAs reading) toJson := by
  intro s
  obtain ⟨source, hsource, hfield, hend⟩ :=
    RecordShape.exists_source (shape reading) (s.writtenFields reading) rfl (by cases reading <;> decide) reading
  simp only [writtenFields, List.forall_mem_cons, List.not_mem_nil, false_imp_iff, implies_true,
    and_true] at hfield
  obtain ⟨hscope, hnotification⟩ := hfield
  have hrecord : (shape reading).source s.toJson = .ok source := hsource
  simp only [decodeAs, bind, Except.bind, hrecord, hscope, hnotification, hend]
  rfl

end ScopedNotification

namespace WalletNotification

/-- The fields that a message is written with. -/
def writtenFields (reading : Reading) (n : WalletNotification) : List WrittenField := [
  ⟨methodField, some (.string n.method), n.method, rfl⟩,
  ⟨paramsField reading, some n.params.toJson, n.params, ScopedNotification.decodeAs_toJson reading n.params⟩]

/-- A message is read among other fields. -/
theorem decodeAs_among (reading : Reading) (others : List WrittenField)
    (hnames : (others.map (·.field.name) ++ (shape reading).names).Nodup) (n : WalletNotification) :
    decodeAs reading (.ofFields (written others ++ n.fields)) = .ok n := by
  obtain ⟨source, hsource, hfield, hend⟩ :=
    RecordShape.exists_source_among (shape reading) (n.writtenFields reading) others (fun _ => rfl) rfl hnames reading
  simp only [writtenFields, List.forall_mem_cons, List.not_mem_nil, false_imp_iff, implies_true,
    and_true] at hfield
  obtain ⟨hmethod, hparams⟩ := hfield
  have hrecord : (shape reading).source (.ofFields (written others ++ n.fields)) = .ok source := by
    rwa [written, List.map_append] at hsource
  simp only [decodeAs, bind, Except.bind, hrecord, hmethod, hparams, hend]
  rfl

theorem decodeAs_toJson (reading : Reading) : Undoes (decodeAs reading) toJson :=
  decodeAs_among reading [] (by cases reading <;> decide)

end WalletNotification

/-! ## Marked messages -/

namespace WireMessage

variable {α : Type} {decodeMessage : Reading → Decoder α} {fields : α → List (String × Option Json)}

/-- The mark is a field of its own. -/
def markWritten (version : RpcVersion) : WrittenField :=
  ⟨.required "jsonrpc" RpcVersion.decode, some version.toJson, version, by cases version; rfl⟩

/-- A marked message is read back if the message is read from among its own fields and the mark. -/
theorem decode_toJson (hnames : ∀ x, ("jsonrpc" :: (fields x).map (·.1)).Nodup)
    (hread : ∀ version x, decodeMessage .setAside (.ofFields (written [markWritten version] ++ fields x)) = .ok x) :
    Undoes (decode decodeMessage) (toJson fields) := by
  intro m
  have hall : ((("jsonrpc", some m.version.toJson) :: fields m.message).map (·.1)).Nodup := hnames m.message
  have hmark : (toJson fields m).field? "jsonrpc" = some m.version.toJson :=
    field?_ofFields hall List.mem_cons_self
  have hmessage : decodeMessage .setAside (toJson fields m) = .ok m.message := hread m.version m.message
  obtain ⟨written, hwritten⟩ : ∃ written, toJson fields m = .object written := ⟨_, rfl⟩
  rw [hwritten] at hmark hmessage ⊢
  have hversion : (KeyMap.ofList written).get? "jsonrpc" = some m.version.toJson := hmark
  have hdecode : RpcVersion.decode m.version.toJson = .ok m.version := (markWritten m.version).reads
  simp only [decode, hversion, hdecode, hmessage, bind, Except.bind]
  rfl

end WireMessage

theorem Notification.decode_wire : Undoes (WireMessage.decode decodeAs) (WireMessage.toJson fields) := by
  refine WireMessage.decode_toJson (fun n => ?_) fun version n => decodeAs_among .setAside _ ?_ n
  · change ["jsonrpc", "method", "params"].Nodup
    decide
  · change ["jsonrpc", "method", "params"].Nodup
    decide

theorem WalletNotification.decode_wire : Undoes (WireMessage.decode decodeAs) (WireMessage.toJson fields) := by
  refine WireMessage.decode_toJson (fun n => ?_) fun version n => decodeAs_among .setAside _ ?_ n
  · change ["jsonrpc", "method", "params"].Nodup
    decide
  · change ["jsonrpc", "method", "params"].Nodup
    decide

/-! ## Errors -/

namespace ErrorCode

/-- A code that is chosen for its own number. -/
theorem code_ite {n number : Int} {c other : ErrorCode} (hc : c.code = number) (hother : other.code = n) :
    (if n = number then c else other).code = n := by
  split
  · next h => rw [hc, h]
  · exact hother

theorem code_ofCode (n : Int) : (ofCode n).code = n := by
  unfold ofCode
  iterate 11 refine code_ite rfl ?_
  rfl

/-- A code that was read is read back. -/
theorem decode_toJson_of_decode {v : Json} {c : ErrorCode} (h : decode v = .ok c) : decode c.toJson = .ok c := by
  cases v with
  | integer n =>
    by_cases hrange : -0x8000000000000000 ≤ n ∧ n < 0x8000000000000000
    · simp only [decode, decodeSignedWord, if_pos hrange, Except.map, Except.ok.injEq] at h
      subst h
      simp only [decode, toJson, code_ofCode, decodeSignedWord, if_pos hrange, Except.map]
    · simp only [decode, decodeSignedWord, if_neg hrange, Except.map, reduceCtorEq] at h
  | _ => cases h

end ErrorCode

namespace RpcError

/-- Further data is never `null`. -/
theorem ne_null_of_decodeOption {v : Json} {data : Option Json} (h : decodeOption decodeAny v = .ok data) :
    data ≠ some .null := by
  cases v <;> cases h <;> simp

theorem reads_data {data : Option Json} (h : data ≠ some .null) : dataField.Reads data data := by
  cases data with
  | none => rfl
  | some v =>
    have hnull : v.isNull = false := by
      cases v with
      | null => exact absurd rfl h
      | _ => rfl
    exact decodeOption_of_not_null hnull rfl

/-- The parts of an error that was read can be read again. -/
theorem parts_of_decode {v : Json} {e : RpcError} (h : decode v = .ok e) :
    ErrorCode.decode e.code.toJson = .ok e.code ∧ e.data ≠ some .null := by
  simp only [decode, bind_eq_ok_iff] at h
  obtain ⟨source, -, code, hcode, message, -, data, hdata, -, -, he⟩ := h
  cases he
  constructor
  · rcases RecordShape.field_eq_ok hcode with ⟨w, hw⟩ | habsent | hcut
    · exact ErrorCode.decode_toJson_of_decode hw
    · cases habsent
    · cases hcut
  · rcases RecordShape.field_eq_ok hdata with ⟨w, hw⟩ | habsent | hcut
    · exact ne_null_of_decodeOption hw
    · cases habsent
      simp
    · cases hcut

/-- An error that was read is read back. -/
theorem decode_toJson_of_decode {v : Json} {e : RpcError} (h : decode v = .ok e) : decode e.toJson = .ok e := by
  obtain ⟨hcodeRead, hdataRead⟩ := parts_of_decode h
  obtain ⟨source, hsource, hfield, hend⟩ := RecordShape.exists_source shape [
    ⟨codeField, some e.code.toJson, e.code, hcodeRead⟩, ⟨messageField, some (.string e.message), e.message, rfl⟩,
    ⟨dataField, e.data, e.data, reads_data hdataRead⟩] rfl (by decide) .inPlace
  simp only [List.forall_mem_cons, List.not_mem_nil, false_imp_iff, implies_true, and_true] at hfield
  obtain ⟨hcode, hmessage, hdata⟩ := hfield
  have hrecord : shape.source e.toJson = .ok source := hsource
  simp only [decode, bind, Except.bind, hrecord, hcode, hmessage, hdata, hend]
  rfl

end RpcError

/-! ## All of them -/

/-- **Reading undoes writing**, for everything that is written for others to read; of errors this holds as far as they
were read themselves, since further data that is `null` counts as none. -/
theorem decoding_undoes_encoding :
    Undoes ScopeObject.decode ScopeObject.toJson ∧
    Undoes SessionRequest.decode SessionRequest.toJson ∧
    Undoes AddChainParameters.decode AddChainParameters.toJson ∧
    Undoes NativeCurrency.decode NativeCurrency.toJson ∧
    Undoes PropertyBag.decode PropertyBag.toJson ∧
    Undoes CaveatValue.decode CaveatValue.toJson ∧
    Undoes RemovalOutcome.decode RemovalOutcome.toJson ∧
    Undoes Caveat.decode Caveat.toJson ∧
    Undoes Permission.decode Permission.toJson ∧
    Undoes Notification.decode Notification.toJson ∧
    Undoes WalletNotification.decode WalletNotification.toJson ∧
    Undoes (WireMessage.decode WalletNotification.decodeAs) (WireMessage.toJson WalletNotification.fields) ∧
    Undoes (WireMessage.decode Notification.decodeAs) (WireMessage.toJson Notification.fields) ∧
    (∀ n : Int, (ErrorCode.ofCode n).code = n) ∧
    ∀ v e, RpcError.decode v = .ok e → RpcError.decode e.toJson = .ok e := by
  refine ⟨ScopeObject.decode_toJson, SessionRequest.decode_toJson, AddChainParameters.decode_toJson,
    NativeCurrency.decode_toJson, PropertyBag.decode_toJson, CaveatValue.decode_toJson,
    RemovalOutcome.decode_toJson, Caveat.decode_toJson, Permission.decode_toJson,
    Notification.decodeAs_toJson .inPlace, WalletNotification.decodeAs_toJson .inPlace,
    WalletNotification.decode_wire, Notification.decode_wire, ErrorCode.code_ofCode,
    fun v e => RpcError.decode_toJson_of_decode⟩

end WalletSession
