import WalletSession.Permission.Check
import WalletSession.Proofs.Scope.Granted
import WalletSession.Proofs.Scope.RoundTrip

set_option autoImplicit false

/-! # Negotiated scopes are in normal form

A scope map is in normal form if every entry is valid for its name and no namespace names chains any more.
Negotiation ends in normal form, and changes nothing that is in normal form already, whether it is given as
scope objects or in writing. So the session permission accepts what was negotiated. -/

namespace WalletSession

/-- Every entry is valid for its name, and no namespace has a list of chains. -/
def ScopeMap.IsNormal (m : ScopeMap) : Prop :=
  ∀ name o, m.get? name = some o →
    o.isValidFor name = true ∧ (ScopeName.parse name = .bare name → o.scopes = none)

/-! ## Negotiation ends in normal form -/

namespace ScopeObject

/-- No method and no notification has an empty name. -/
def NamesAll (o : ScopeObject) : Prop := (∀ m ∈ o.methods, m ≠ "") ∧ ∀ n ∈ o.notifications, n ≠ ""

variable {o a b : ScopeObject} {name : String}

theorem namesAll_of_isValidFor (h : o.isValidFor name = true) : o.NamesAll := by
  simp only [isValidFor, Bool.and_eq_true, List.all_eq_true, Bool.not_eq_true'] at h
  have hne : ∀ s : String, s.isEmpty = false → s ≠ "" := by
    rintro s hs rfl
    cases hs
  exact ⟨fun m hm => hne m (h.1.2 m hm), fun n hn => hne n (h.2 n hn)⟩

theorem isValidFor_of_scopes_none (hname : ScopeName.parse name ≠ .unrecognized) (hscopes : o.scopes = none)
    (h : o.NamesAll) : o.isValidFor name = true := by
  have hne : ∀ s : String, s ≠ "" → s.isEmpty = false := fun s hs => by simpa using hs
  simp only [isValidFor, nested, hscopes, Option.getD_none, List.isEmpty_nil, List.all_nil, Bool.and_eq_true,
    List.all_eq_true, Bool.not_eq_true']
  refine ⟨⟨?_, fun m hm => hne m (h.1 m hm)⟩, fun n hn => hne n (h.2 n hn)⟩
  cases hparse : ScopeName.parse name with
  | bare => rfl
  | chain => rfl
  | unrecognized => exact absurd hparse hname

theorem NamesAll.merge (ha : a.NamesAll) (hb : b.NamesAll) : (a.merge b).NamesAll := by
  constructor
  · exact forall_mem_distinctUnion.2 ⟨ha.1, hb.1⟩
  · exact forall_mem_distinctUnion.2 ⟨ha.2, hb.2⟩

end ScopeObject

namespace RawScopes

variable {raw : RawScopes} {name : String}

theorem Declares.namesAll {o : ScopeObject} (h : raw.Declares name o) : o.NamesAll := by
  obtain ⟨_, _, _, hvalid⟩ := h
  exact ScopeObject.namesAll_of_isValidFor hvalid

theorem HandsOn.namesAll {o : ScopeObject} (h : raw.HandsOn name o) : o.NamesAll := by
  obtain ⟨_, _, _, ho, _⟩ := h
  exact ho.namesAll

/-- What a chain is granted in place of a declaration of its own is valid for it. -/
theorem isNormal_entry_of_handsOn {n g : ScopeObject} (hn : raw.HandsOn name n) (hscopes : g.scopes = none)
    (hnames : g.NamesAll) :
    g.isValidFor name = true ∧ (ScopeName.parse name = .bare name → g.scopes = none) := by
  obtain ⟨c, _, hname, _⟩ := hn
  have hrecognized : ScopeName.parse name ≠ .unrecognized := by simp [hname]
  exact ⟨ScopeObject.isValidFor_of_scopes_none hrecognized hscopes hnames, fun _ => hscopes⟩

theorem isNormal_flatten_valid (raw : RawScopes) : raw.valid.flatten.IsNormal := by
  intro name g hg
  have hshare := raw.share_flatten name
  rw [hg] at hshare
  cases hshare with
  | both hn ho =>
    exact isNormal_entry_of_handsOn hn rfl (ScopeObject.NamesAll.merge hn.namesAll ho.1.namesAll)
  | handed hn _ => exact isNormal_entry_of_handsOn hn rfl hn.namesAll
  | kept ho _ =>
    obtain ⟨⟨_, _, _, hvalid⟩, hchain⟩ := ho
    refine ⟨hvalid, fun hbare => hchain.resolve_left ?_⟩
    rintro ⟨c, hc⟩
    rw [hbare] at hc
    cases hc

end RawScopes

/-! ## Normal forms stay as they are -/

namespace ScopeMap.IsNormal

variable {m : ScopeMap}

theorem allValid (hm : m.IsNormal) : m.AllValid := fun name o ho => (hm name o ho).1

theorem valid_eq (hm : m.IsNormal) : m.valid = m := by
  ext name o
  rw [get?_valid]
  cases ho : m.get? name with
  | none => rfl
  | some o' => simp [Option.filter, (hm name o' ho).1]

theorem flatten_eq (hm : m.IsNormal) : m.flatten = m := by
  refine KeyMap.ext_get? fun name => ?_
  by_cases hchain : ∃ c, ScopeName.parse name = .chain c
  · obtain ⟨c, hname⟩ := hchain
    -- The namespace has no list of chains, so nothing is handed on.
    have hhanded : ((m.get? c.ns).bind fun o => (o.flatten c.ns).get? name) = none := by
      rw [Option.bind_eq_none_iff]
      intro o ho
      have hscopes : o.scopes = none := (hm c.ns o ho).2 (ScopeName.parse_ns hname)
      rw [ScopeObject.get?_flatten_itself (Or.inr hscopes), if_neg (String.ne_of_lt (ScopeName.ns_lt hname))]
    rw [get?_flatten_chain hm.allValid hname, hhanded]
    cases m.get? name <;> rfl
  · rw [get?_flatten_of_not_chain hm.allValid (not_exists.1 hchain)]
    cases ho : m.get? name with
    | none => rfl
    | some o =>
      have hbare : ScopeName.parse name = .bare name :=
        (ScopeObject.parse_of_isValidFor (hm.allValid name o ho)).resolve_right hchain
      simp [Option.filter, (hm name o ho).2 hbare]

end ScopeMap.IsNormal

namespace ScopeSides

/-- Both sides are in normal form. -/
def IsNormal (sides : ScopeSides ScopeMap) : Prop := sides.required.IsNormal ∧ sides.optional.IsNormal

/-- The declarations that both sides are written as. -/
def toRaw (sides : ScopeSides ScopeMap) : ScopeSides RawScopes := ⟨sides.required.toRaw, sides.optional.toRaw⟩

theorem isNormal_negotiate (raw : ScopeSides RawScopes) : raw.negotiate.IsNormal :=
  ⟨raw.required.isNormal_flatten_valid, raw.optional.isNormal_flatten_valid⟩

variable {sides : ScopeSides ScopeMap}

theorem IsNormal.renegotiate_eq (h : sides.IsNormal) : sides.renegotiate = sides := by
  rw [renegotiate, h.1.valid_eq, h.2.valid_eq, h.1.flatten_eq, h.2.flatten_eq]

theorem IsNormal.negotiate_toRaw_eq (h : sides.IsNormal) : sides.toRaw.negotiate = sides := by
  simp only [negotiate, toRaw, ScopeMap.valid_toRaw]
  exact h.renegotiate_eq

end ScopeSides

/-! ## The session permission accepts normal forms -/

namespace CaveatValue

theorem declared?_toJson (v : CaveatValue) :
    SessionPermission.declared? v.toJson = some v.toScopeSides.toRaw := by
  have hfield : ∀ name w, (name, w) ∈ [("requiredScopes", v.required.toJson),
      ("optionalScopes", v.optional.toJson), ("sessionProperties", .ofMap v.sessionProperties)] →
      v.toJson.field? name = some w := fun _ _ hmem => Json.field?_object (by simp) hmem
  have hrequired := hfield "requiredScopes" v.required.toJson (by simp)
  have hoptional := hfield "optionalScopes" v.optional.toJson (by simp)
  have hmembers : ∀ m : ScopeMap, m.toJson.members? = some m.toRaw := fun m => Json.members?_ofMap m.toRaw
  simp [SessionPermission.declared?, hrequired, hoptional, hmembers, ScopeSides.toRaw]

end CaveatValue

namespace SessionPermission

theorem isNormalized_toRaw (m : ScopeMap) : isNormalized m.toRaw m = true := by
  simp [isNormalized, ScopeMap.traverse_decode_toRaw]

theorem check_of_isNormal (capability invoker : String) {v : CaveatValue} (h : v.toScopeSides.IsNormal) :
    check ⟨capability, invoker, some [⟨caveatType, v.toJson⟩]⟩ = .ok () := by
  simp only [check, CaveatValue.declared?_toJson, h.negotiate_toRaw_eq, if_true]
  simp only [ScopeSides.toRaw, isNormalized_toRaw, Bool.and_self, if_true]

end SessionPermission

/-- **Negotiation reaches a normal form in one pass.** What it leaves is in normal form, is left unchanged when
it is negotiated again, as scope objects or in writing, and is accepted by the session permission together with
any properties. -/
theorem negotiate_normal (raw : ScopeSides RawScopes) :
    raw.negotiate.IsNormal ∧
    raw.negotiate.renegotiate = raw.negotiate ∧
    (∃ written : ScopeSides RawScopes,
      RawScopes.decode raw.negotiate.required.toJson = .ok written.required ∧
      RawScopes.decode raw.negotiate.optional.toJson = .ok written.optional ∧
      written.negotiate = raw.negotiate) ∧
    ∀ (capability invoker : String) (properties : KeyMap Json),
      SessionPermission.check ⟨capability, invoker, some [⟨"authorizedScopes",
        CaveatValue.toJson { toScopeSides := raw.negotiate, sessionProperties := properties }⟩]⟩ = .ok () := by
  have hnormal := raw.isNormal_negotiate
  refine ⟨hnormal, hnormal.renegotiate_eq, ⟨raw.negotiate.toRaw, ?_, ?_, hnormal.negotiate_toRaw_eq⟩, ?_⟩
  · exact ScopeMap.rawDecode_toJson _
  · exact ScopeMap.rawDecode_toJson _
  · intro capability invoker properties
    exact SessionPermission.check_of_isNormal capability invoker hnormal

end WalletSession
