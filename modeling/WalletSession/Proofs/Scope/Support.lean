import WalletSession.Proofs.Eip155
import WalletSession.Scope.Support

set_option autoImplicit false

/-! # When a scope is refused

A scope is refused for its name, for a method or for a notification, and the first of these that applies is
reported (`ScopeObject.errorCode?_eq_some_iff`). Which chains a wallet serves matters to the names of chains only
(`isSupportedScope_congr`). -/

namespace WalletSession

/-! ## Names -/

theorem isSupportedScope_of_chain (serves : ChainNumber → Bool) {name : String} {c : ChainId}
    (hname : ScopeName.parse name = .chain c) (hns : c.ns = Eip155.namespaceName) :
    isSupportedScope serves name = (ScopeName.parse name).eip155?.any serves := by
  have hknown : KnownNamespace.ofText? Eip155.namespaceName = some .eip155 := by decide
  simp only [isSupportedScope, hname, ScopeName.known?, ScopeName.ns?, ScopeName.reference?, ScopeName.eip155?,
    ChainId.eip155?, hns, Option.bind_some, hknown, if_true]
  cases Eip155.number? c.reference <;> rfl

theorem isSupportedScope_of_number {name : String} {n : ChainNumber}
    (hn : (ScopeName.parse name).eip155? = some n) (serves : ChainNumber → Bool) :
    isSupportedScope serves name = serves n := by
  obtain rfl := ScopeName.eip155?_eq_some_iff.1 hn
  rw [isSupportedScope_of_chain serves (ScopeName.parse_text_chainId n) rfl, hn, Option.any_some]

/-- In the namespace `eip155` a chain has the number of its reference. -/
theorem ScopeName.eip155?_of_known {scope : ScopeName} {reference : String} (hknown : scope.known? = some .eip155)
    (hreference : scope.reference? = some reference) : scope.eip155? = Eip155.number? reference := by
  cases scope with
  | bare => cases hreference
  | unrecognized => cases hreference
  | chain c =>
    cases hreference
    have hfound : [KnownNamespace.eip155, .wallet, .bip122, .solana].find? (·.text == c.ns) = some .eip155 := hknown
    have htext := List.find?_some hfound
    have hns : c.ns = Eip155.namespaceName := (eq_of_beq htext).symm
    rw [eip155?, ChainId.eip155?, if_pos hns]

/-- All wallets agree on a name without a number. -/
theorem isSupportedScope_congr {name : String} (hnone : (ScopeName.parse name).eip155? = none)
    (serves other : ChainNumber → Bool) : isSupportedScope serves name = isSupportedScope other name := by
  unfold isSupportedScope
  simp only
  split
  case h_4 hknown hreference => simp only [← ScopeName.eip155?_of_known hknown hreference, hnone]
  all_goals rfl

/-! ## Refusals -/

namespace ScopeObject

/-- All methods and notifications of a scope object are supported under a scope name. -/
structure AllSupported (o : ScopeObject) (name : String) : Prop where
  methods : ∀ method ∈ o.methods, isSupportedMethod name method = true
  notifications : ∀ notification ∈ o.notifications, isSupportedNotification name notification = true

/-- The code of the error for a scope that is refused. -/
def errorCode? (serves : ChainNumber → Bool) (name : String) (o : ScopeObject) : Option Int :=
  (o.refusal? serves name).map (·.code.code)

/-- The code for a scope that is refused: its name comes first, then its methods, then its notifications. -/
inductive RefusedWith (serves : ChainNumber → Bool) (name : String) (o : ScopeObject) : Int → Prop where
  | chain (hname : isSupportedScope serves name = false) : RefusedWith serves name o 5100
  | method (hname : isSupportedScope serves name = true) {method : String} (hmem : method ∈ o.methods)
      (hmethod : isSupportedMethod name method = false) : RefusedWith serves name o 5101
  | notification (hname : isSupportedScope serves name = true)
      (hmethods : ∀ method ∈ o.methods, isSupportedMethod name method = true) {notification : String}
      (hmem : notification ∈ o.notifications)
      (hnotification : isSupportedNotification name notification = false) : RefusedWith serves name o 5102

variable {serves : ChainNumber → Bool} {name : String} {o : ScopeObject} {code : Int}

theorem refusal?_eq_none_iff :
    o.refusal? serves name = none ↔ isSupportedScope serves name = true ∧ o.AllSupported name := by
  have hknown : o.AllSupported name ↔ o.methods.all (isSupportedMethod name) = true ∧
      o.notifications.all (isSupportedNotification name) = true := by
    rw [List.all_eq_true, List.all_eq_true]
    exact ⟨fun h => ⟨h.methods, h.notifications⟩, fun h => ⟨h.1, h.2⟩⟩
  rw [hknown, refusal?]
  cases isSupportedScope serves name with
  | false => simp
  | true =>
    cases o.methods.all (isSupportedMethod name) <;> cases o.notifications.all (isSupportedNotification name) <;> simp

theorem errorCode?_eq_none_iff :
    o.errorCode? serves name = none ↔ isSupportedScope serves name = true ∧ o.AllSupported name := by
  rw [errorCode?, Option.map_eq_none_iff, refusal?_eq_none_iff]

theorem RefusedWith.of_refusal? {r : Refusal} (h : o.refusal? serves name = some r) :
    o.RefusedWith serves name r.code.code := by
  unfold refusal? at h
  split at h
  · next hname =>
    cases h
    exact .chain (by simpa using hname)
  next hname =>
  have hname : isSupportedScope serves name = true := by simpa using hname
  split at h
  · next hmethods =>
    cases h
    obtain ⟨method, hmem, hmethod⟩ : ∃ m ∈ o.methods, isSupportedMethod name m = false := by simpa using hmethods
    exact .method hname hmem hmethod
  next hmethods =>
  have hmethods : ∀ m ∈ o.methods, isSupportedMethod name m = true := by simpa using hmethods
  split at h
  · next hnotifications =>
    cases h
    obtain ⟨notification, hmem, hnotification⟩ :
        ∃ n ∈ o.notifications, isSupportedNotification name n = false := by simpa using hnotifications
    exact .notification hname hmethods hmem hnotification
  · cases h

theorem RefusedWith.errorCode?_eq (h : o.RefusedWith serves name code) : o.errorCode? serves name = some code := by
  cases h with
  | chain hname =>
    simp only [errorCode?, refusal?, hname, Bool.not_false, if_true]
    rfl
  | method hname hmem hmethod =>
    have hall : o.methods.all (isSupportedMethod name) = false :=
      List.all_eq_false.2 ⟨_, hmem, by simp [hmethod]⟩
    simp only [errorCode?, refusal?, hname, hall, Bool.not_false, Bool.not_true, Bool.false_eq_true, if_true, if_false]
    rfl
  | notification hname hmethods hmem hnotification =>
    have hall : o.methods.all (isSupportedMethod name) = true := List.all_eq_true.2 hmethods
    have hsome : o.notifications.all (isSupportedNotification name) = false :=
      List.all_eq_false.2 ⟨_, hmem, by simp [hnotification]⟩
    simp only [errorCode?, refusal?, hname, hall, hsome, Bool.not_false, Bool.not_true, Bool.false_eq_true, if_true,
      if_false]
    rfl

/-- **What is reported for a scope that is refused.** -/
theorem errorCode?_eq_some_iff : o.errorCode? serves name = some code ↔ o.RefusedWith serves name code := by
  constructor
  · intro h
    obtain ⟨r, hr, rfl⟩ := Option.map_eq_some_iff.1 h
    exact .of_refusal? hr
  · exact RefusedWith.errorCode?_eq

theorem exists_refusedWith_iff :
    (∃ code, o.RefusedWith serves name code) ↔ ¬ (isSupportedScope serves name = true ∧ o.AllSupported name) := by
  simp only [← errorCode?_eq_some_iff, ← errorCode?_eq_none_iff, ← ne_eq, Option.ne_none_iff_exists']

end ScopeObject

theorem ScopeMap.refusal?_eq_none_iff {serves : ChainNumber → Bool} {m : ScopeMap} :
    m.refusal? serves = none ↔ ∀ name o, m.get? name = some o → o.refusal? serves name = none := by
  rw [refusal?, List.findSome?_eq_none_iff]
  constructor
  · exact fun h name o ho => h (name, o) (KeyMap.mem_toList.2 ho)
  · exact fun h e he => h e.1 e.2 (KeyMap.mem_toList.1 he)

end WalletSession
