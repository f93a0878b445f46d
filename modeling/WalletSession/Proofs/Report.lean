import Mathlib.Data.List.Destutter
import WalletSession.Proofs.Text
import WalletSession.Report

set_option autoImplicit false

/-! # What a report leaves out

A report compares every message with the one it kept last, and leaves out a message that is contained in it
(`Report.exists_positions`). So no message is lost: each is contained in one that is kept, and what is kept is kept
again by a report of it (`Report.causes_omit_contained`). -/

namespace WalletSession

/-! ## Parts of texts -/

namespace Text

/-- A text occurs inside another one. -/
def Contains (whole part : String) : Prop := part.toList <:+: whole.toList

instance (whole part : String) : Decidable (Contains whole part) := decidable_of_iff _ occursIn_iff

theorem Contains.refl (s : String) : Contains s s := List.infix_refl _

end Text

namespace Report

open Text

/-! ## Which messages are kept -/

/-- A message says something that the message kept before it does not contain. -/
def AddsTo (kept message : String) : Prop := ¬ Contains kept message

instance (kept message : String) : Decidable (AddsTo kept message) := inferInstanceAs (Decidable (¬ _))

/-- Each message is compared with the one kept last. -/
theorem cons_dedup_eq_destutter' (first : String) (rest : List String) :
    first :: dedup first rest = rest.destutter' AddsTo first := by
  induction rest generalizing first with
  | nil => rfl
  | cons message rest ih =>
    rw [dedup]
    split
    · next h =>
      rw [List.destutter'_cons_neg _ (not_not_intro (occursIn_iff.1 h))]
      exact ih first
    · next h =>
      rw [List.destutter'_cons_pos _ (mt occursIn_iff.2 h), ih message]

theorem causes_eq_cons (r : Report) : r.causes = trim r.headline :: dedup (trim r.headline) (r.causedBy.map trim) := rfl

theorem causes_eq_destutter (r : Report) : r.causes = r.trimmed.destutter AddsTo := by
  rw [causes_eq_cons, cons_dedup_eq_destutter']
  rfl

/-- One more message at the end is compared with the last one that is kept. -/
theorem cons_dedup_concat {first latest : String} {rest : List String} (message : String)
    (h : (first :: dedup first rest).getLast? = some latest) :
    first :: dedup first (rest ++ [message]) =
      (first :: dedup first rest) ++ if Contains latest message then [] else [message] := by
  induction rest generalizing first with
  | nil =>
    obtain rfl : first = latest := Option.some.inj h
    rw [List.nil_append, dedup, dedup, dedup]
    by_cases hcontains : Contains first message
    · rw [if_pos hcontains, if_pos (occursIn_iff.2 hcontains)]
      rfl
    · rw [if_neg hcontains, if_neg (mt occursIn_iff.1 hcontains)]
      rfl
  | cons other rest ih =>
    simp only [List.cons_append, dedup] at h ⊢
    split at h
    · next hother =>
      rw [if_pos hother, if_pos hother]
      exact ih h
    · next hother =>
      rw [if_neg hother, if_neg hother]
      exact congrArg (first :: ·) (ih h)

/-- The position that comes last before `i` among those kept. -/
structure IsLatestBefore (kept : List Nat) (i j : Nat) : Prop where
  mem : j ∈ kept
  lt : j < i
  le_of_mem : ∀ k ∈ kept, k < i → k ≤ j

/-- The positions of the messages to keep: the first one, and of the others those of messages that are not contained in
the nearest message before them that is kept. -/
structure Keeps (messages : List String) (kept : List Nat) : Prop where
  head_eq : kept.head? = some 0
  ascending : kept.Pairwise (· < ·)
  lt_length : ∀ i ∈ kept, i < messages.length
  mem_iff : ∀ i message, 0 < i → messages[i]? = some message → ∃ j latest, IsLatestBefore kept i j ∧
    messages[j]? = some latest ∧ (i ∈ kept ↔ ¬ Contains latest message)

namespace Keeps

variable {messages : List String} {kept : List Nat}

theorem singleton (message : String) : Keeps [message] [0] where
  head_eq := rfl
  ascending := List.pairwise_singleton _ _
  lt_length := by simp
  mem_iff i other hi hother := by
    have hlt := (List.getElem?_eq_some_iff.1 hother).1
    rw [List.length_singleton] at hlt
    omega

/-- A message at the end does not matter for those before it. -/
theorem concat (h : Keeps messages kept) {j : Nat} {latest : String} (hlast : kept.getLast? = some j)
    (hlatest : messages[j]? = some latest) (message : String) :
    Keeps (messages ++ [message]) (kept ++ if Contains latest message then [] else [messages.length]) := by
  have hmem (i : Nat) : i ∈ kept ++ (if Contains latest message then [] else [messages.length]) ↔
      i ∈ kept ∨ i = messages.length ∧ ¬ Contains latest message := by
    by_cases hcontains : Contains latest message <;> simp [hcontains]
  constructor
  case head_eq => rw [List.head?_append, h.head_eq, Option.some_or]
  case ascending =>
    rw [List.pairwise_append]
    refine ⟨h.ascending, by split <;> simp, fun i hi k hk => ?_⟩
    obtain rfl : k = messages.length := by
      split at hk <;> simp_all
    exact h.lt_length i hi
  case lt_length =>
    intro i hi
    rw [List.length_append, List.length_singleton]
    rcases (hmem i).1 hi with hi | ⟨rfl, -⟩
    · exact Nat.lt_succ_of_lt (h.lt_length i hi)
    · exact Nat.lt_succ_self _
  case mem_iff =>
    intro i other hi hother
    rcases Nat.lt_or_ge i messages.length with hlt | hge
    · rw [List.getElem?_append_left hlt] at hother
      obtain ⟨k, before, hk, hbefore, hiff⟩ := h.mem_iff i other hi hother
      refine ⟨k, before, ⟨(hmem k).2 (.inl hk.mem), hk.lt, fun m hm hmi => ?_⟩, ?_, ?_⟩
      · rcases (hmem m).1 hm with hm | ⟨rfl, -⟩
        · exact hk.le_of_mem m hm hmi
        · omega
      · rw [List.getElem?_append_left (h.lt_length k hk.mem)]
        exact hbefore
      · rw [hmem, ← hiff]
        have hne : i ≠ messages.length := Nat.ne_of_lt hlt
        simp [hne]
    · -- The new message is compared with the last one that is kept.
      have hlen := (List.getElem?_eq_some_iff.1 hother).1
      rw [List.length_append, List.length_singleton] at hlen
      obtain rfl : i = messages.length := by omega
      obtain rfl : message = other := by simpa using hother
      have hj : j ∈ kept := List.mem_of_getLast? hlast
      refine ⟨j, latest, ⟨(hmem j).2 (.inl hj), h.lt_length j hj, fun k hk hlt => ?_⟩, ?_, ?_⟩
      · rcases (hmem k).1 hk with hk | ⟨rfl, -⟩
        · obtain ⟨before, rfl⟩ := List.getLast?_eq_some_iff.1 hlast
          rcases List.mem_append.1 hk with hk | hk
          · exact ((List.pairwise_append.1 h.ascending).2.2 k hk j (by simp)).le
          · exact (List.mem_singleton.1 hk).le
        · exact absurd hlt (Nat.lt_irrefl _)
      · rw [List.getElem?_append_left (h.lt_length j hj)]
        exact hlatest
      · rw [hmem]
        have hout : messages.length ∉ kept := fun hin => Nat.lt_irrefl _ (h.lt_length _ hin)
        simp [hout]

end Keeps

/-- The positions of the messages that are kept. -/
theorem exists_positions (first : String) (rest : List String) : ∃ kept, Keeps (first :: rest) kept ∧
    (first :: dedup first rest).map some = kept.map ((first :: rest)[·]?) := by
  induction rest using List.reverseRecOn with
  | nil => exact ⟨[0], Keeps.singleton first, rfl⟩
  | append_singleton rest message ih =>
    obtain ⟨kept, hkeeps, hcauses⟩ := ih
    obtain ⟨latest, hlatest⟩ : ∃ latest, (first :: dedup first rest).getLast? = some latest :=
      Option.isSome_iff_exists.1 (by simp)
    have hlast := congrArg List.getLast? hcauses
    rw [List.getLast?_map, List.getLast?_map, hlatest, Option.map_some, eq_comm, Option.map_eq_some_iff] at hlast
    obtain ⟨j, hj, hmessage⟩ := hlast
    refine ⟨_, hkeeps.concat hj hmessage message, ?_⟩
    have hsame : kept.map ((first :: rest)[·]?) = kept.map (((first :: rest) ++ [message])[·]?) :=
      List.map_congr_left fun i hi => (List.getElem?_append_left (hkeeps.lt_length i hi)).symm
    rw [cons_dedup_concat message hlatest, List.map_append, hcauses, hsame, List.map_append]
    congr 1
    by_cases hcontains : Contains latest message <;> simp [hcontains]

/-! ## Nothing is lost -/

/-- What a report says of its messages. -/
structure Condenses (messages causes : List String) : Prop where
  sublist : causes.Sublist messages
  /-- A message is left out exactly if the nearest one before it that is kept contains it. -/
  exists_positions : ∃ kept, Keeps messages kept ∧ causes.map some = kept.map (messages[·]?)
  next_not_contained : causes.IsChain fun kept next => ¬ Contains kept next
  contained : ∀ message ∈ messages, ∃ cause ∈ causes, Contains cause message

theorem Keeps.contained {messages causes : List String} {kept : List Nat} (h : Keeps messages kept)
    (hcauses : causes.map some = kept.map (messages[·]?)) {message : String} (hmessage : message ∈ messages) :
    ∃ cause ∈ causes, Contains cause message := by
  have hkept {i : Nat} {cause : String} (hi : i ∈ kept) (hcause : messages[i]? = some cause) : cause ∈ causes := by
    have hmem : some cause ∈ causes.map some := hcauses ▸ List.mem_map.2 ⟨i, hi, hcause⟩
    simpa using hmem
  obtain ⟨i, hi⟩ := List.mem_iff_getElem?.1 hmessage
  by_cases hin : i ∈ kept
  · exact ⟨message, hkept hin hi, Contains.refl message⟩
  · have hpos : 0 < i := by
      rw [Nat.pos_iff_ne_zero]
      rintro rfl
      exact hin (List.mem_of_head? h.head_eq)
    obtain ⟨j, latest, hlatest, hj, hiff⟩ := h.mem_iff i message hpos hi
    exact ⟨latest, hkept hlatest.mem hj, not_not.1 (mt hiff.2 hin)⟩

theorem condenses_causes (r : Report) : Condenses r.trimmed r.causes where
  sublist := by
    rw [causes_eq_destutter]
    exact List.destutter_sublist AddsTo _
  exists_positions := exists_positions _ _
  next_not_contained := by
    rw [causes_eq_destutter]
    exact List.isChain_destutter AddsTo _
  contained _ hmessage := by
    obtain ⟨kept, hkeeps, hcauses⟩ := exists_positions (trim r.headline) (r.causedBy.map trim)
    exact hkeeps.contained hcauses hmessage

/-- Messages that a report keeps have no blanks around them. -/
theorem map_trim_causes (r : Report) : r.causes.map trim = r.causes := by
  refine (List.map_congr_left fun cause hcause => ?_).trans (List.map_id _)
  obtain ⟨message, -, rfl⟩ := List.mem_map.1 ((condenses_causes r).sublist.mem hcause)
  exact trim_trim message

/-- **A report leaves out only what it says anyway**: a message that the nearest one kept before it contains. What it
keeps are the causes of a chain of errors too, and a report of that chain keeps all of them. -/
theorem causes_omit_contained (r : Report) :
    r.causes.head? = some (trim r.headline) ∧ Condenses r.trimmed r.causes ∧
    ∃ again : Report, again.headline :: again.causedBy = r.causes ∧ again.causes = r.causes := by
  refine ⟨rfl, condenses_causes r, ⟨trim r.headline, dedup (trim r.headline) (r.causedBy.map trim)⟩, rfl, ?_⟩
  have htrimmed : Report.trimmed ⟨trim r.headline, dedup (trim r.headline) (r.causedBy.map trim)⟩ = r.causes :=
    map_trim_causes r
  rw [causes_eq_destutter, htrimmed, causes_eq_destutter, List.destutter_idem]

/-- The last message is compared with the first one, which is kept, and not with the one right before it. -/
example : Report.causes ⟨" no client for 0x1 ", ["no client", "0x1", "timeout"]⟩ = ["no client for 0x1", "timeout"] := by
  decide +kernel

end Report
end WalletSession
