import ProfileControls.Proofs.Menu.Table

/-!
# The order of the menu

A menu offers its actions in one order, whatever it offers of them (`Context.inOrder`). The order
has fourteen slots, five of which have two alternatives. Which actions are offered is told by a
table of conditions (`Context.Due`), which says in terms of session, relationship, visibility,
origin and permissions what the sections decide one by one. Nothing is assumed of how the parts of
the context have come about, so that the visibility need not be the one that belongs to the
standing.
-/

namespace ProfileControls

/-- The address is a link of the web: a text without blanks behind `http://` or `https://`. -/
def IsWebAddress (address : String) : Prop :=
  ∃ start ∈ ["http://", "https://"], ∃ rest : String, address = start ++ rest ∧ rest ≠ "" ∧
    ∀ c ∈ rest.toList, Text.isBlank c = false

namespace Menu

/-- The action that takes the place of another one in the menu. -/
def alternative? : Action → Option Action
  | .hideReblogs => some .showReblogs
  | .endorse => some .unendorse
  | .mute => some .unmute
  | .block => some .unblock
  | .blockDomain => some .unblockDomain
  | _ => none

/-- The slots of a menu in their order, with the actions that may stand in each. -/
def slots : List (List Action) :=
  [.mention, .directMention, .openHomePage, .hideReblogs, .changeLanguages, .endorse, .manageLists,
    .removeFromFollowers, .mute, .block, .report, .blockDomain, .moderateAccount,
    .moderateDomain].map fun a => a :: (alternative? a).toList

namespace Context

/-- The viewer is signed in and is not the subject, and the relationship is known, is not concealed
and meets the condition. -/
def Relational (c : Context) (condition : Ties → Prop) : Prop :=
  c.session.signedIn = true ∧ c.standing.isSelf = false ∧
    c.visibility.reasons.suspended = false ∧ c.visibility.reasons.hidden = false ∧
    ∃ t, c.standing.ties = some t ∧ condition t

/-- The subject is remote, and its domain is known. -/
def HasRemoteDomain (c : Context) : Prop :=
  ∃ domain, c.standing.origin = .remote (some domain)

/-- The condition for offering an action. -/
def Due (c : Context) : Action → Prop
  | .mention | .directMention =>
    c.session.signedIn = true ∧ c.standing.lifecycle.isSuspended = false
  | .openHomePage =>
    (∃ domain, c.standing.origin = .remote domain) ∧
      ∃ url, c.account.url = some url ∧ IsWebAddress url
  | .hideReblogs => c.Relational fun t =>
    t.following = true ∧ t.muting = false ∧ t.showingReblogs = true
  | .showReblogs => c.Relational fun t =>
    t.following = true ∧ t.muting = false ∧ t.showingReblogs = false
  | .changeLanguages => c.Relational fun t => t.following = true ∧ t.muting = false
  | .endorse => c.Relational fun t => t.following = true ∧ t.endorsed = false
  | .unendorse => c.Relational fun t => t.following = true ∧ t.endorsed = true
  | .manageLists => c.Relational fun t => t.following = true
  | .removeFromFollowers => c.Relational fun t => t.followedBy = true
  | .mute => c.Relational fun t => t.muting = false
  | .unmute => c.Relational fun t => t.muting = true
  | .block => c.Relational fun t => t.blocking = false
  | .unblock => c.Relational fun t => t.blocking = true
  | .report =>
    c.session.signedIn = true ∧ c.standing.isSelf = false ∧ c.standing.ties ≠ none ∧
      c.standing.lifecycle.isSuspended = false
  | .blockDomain => c.Relational (fun t => t.domainBlocking = false) ∧ c.HasRemoteDomain
  | .unblockDomain => c.Relational (fun t => t.domainBlocking = true) ∧ c.HasRemoteDomain
  | .moderateAccount =>
    c.session.signedIn = true ∧ c.standing.isSelf = false ∧
      c.session.permissions.contains .manageUsers = true
  | .moderateDomain =>
    c.session.signedIn = true ∧ c.standing.isSelf = false ∧
      c.session.permissions.contains .manageFederation = true ∧ c.HasRemoteDomain
  | .follow | .unfollow | .withdrawRequest | .enableNotifications | .disableNotifications
  | .muteNotifications | .unmuteNotifications => False

end Context

end Menu

/-! ## Addresses -/

/-- What stands behind a start makes up the text together with it. -/
lemma Text.after?_eq_some_iff {start text : String} {rest : List Char} :
    Text.after? start text = some rest ↔ text = start ++ String.ofList rest := by
  rw [Text.after?, Text.dropStart?_eq_some_iff, ← String.toList_inj, String.toList_append,
    String.toList_ofList]

/-- The two schemes are told apart. -/
lemma https_ne_http (rest rest' : String) : "https://" ++ rest ≠ "http://" ++ rest' := by
  intro same
  have chars := congrArg String.toList same
  rw [String.toList_append, String.toList_append] at chars
  -- the fifth characters differ
  simp at chars

/-- What stands behind either scheme makes up the address together with it. -/
lemma after?_either {address : String} {rest : List Char} :
    (Text.after? "https://" address <|> Text.after? "http://" address) = some rest ↔
      address = "https://" ++ String.ofList rest ∨ address = "http://" ++ String.ofList rest := by
  rw [← Text.after?_eq_some_iff, ← Text.after?_eq_some_iff]
  cases secure : Text.after? "https://" address with
  | none => exact (or_iff_right nofun).symm
  | some rest' =>
    refine (or_iff_left fun plain => ?_).symm
    rw [Text.after?_eq_some_iff] at secure plain
    exact https_ne_http _ _ (secure.symm.trans plain)

/-- The check of addresses accepts the web addresses. -/
lemma isWebAddress_iff {address : String} : isWebAddress address = true ↔ IsWebAddress address := by
  have read : isWebAddress address =
      (Text.after? "https://" address <|> Text.after? "http://" address).any
        fun rest => !rest.isEmpty && !rest.any Text.isBlank := by
    rw [isWebAddress]
    cases Text.after? "https://" address <|> Text.after? "http://" address <;> rfl
  simp only [read, Option.any_eq_true, after?_either, Bool.and_eq_true, Bool.not_eq_true',
    List.isEmpty_eq_false_iff, List.any_eq_false, Bool.not_eq_true]
  constructor
  · rintro ⟨rest, scheme, some_text, blankless⟩
    have some_text' : String.ofList rest ≠ "" := mt String.ofList_eq_empty_iff.1 some_text
    rw [← String.toList_ofList (l := rest)] at blankless
    obtain secure | plain := scheme
    · exact ⟨"https://", by simp, _, secure, some_text', blankless⟩
    · exact ⟨"http://", by simp, _, plain, some_text', blankless⟩
  · rintro ⟨start, scheme, rest, rfl, some_text, blankless⟩
    refine ⟨rest.toList, ?_, mt String.toList_eq_nil_iff.1 some_text, blankless⟩
    rw [String.ofList_toList]
    obtain rfl | scheme := List.mem_cons.1 scheme
    · exact .inr rfl
    · cases List.mem_singleton.1 scheme
      exact .inl rfl

namespace Menu.Context

variable {c : Context}

/-! ## Conditions -/

/-- A condition on ties that may be acted on is a condition on the relationship. -/
lemma any_ties_iff {p : Ties → Bool} {condition : Ties → Prop}
    (same : ∀ t, p t = true ↔ condition t) : c.ties.any p = true ↔ c.Relational condition := by
  have barred : c.ties = if !c.session.signedIn || c.standing.isSelf ||
    (c.visibility.reasons.suspended || c.visibility.reasons.hidden) then none
      else c.standing.ties := rfl
  rw [barred, Option.any_eq_true]
  simp only [Option.ite_none_left_eq_some, Bool.or_eq_true, Bool.not_eq_true', not_or,
    Bool.not_eq_true, Bool.not_eq_false, same, Relational, and_assoc, exists_and_left]

/-- There is a remote domain exactly if the subject is remote and its domain is known. -/
lemma isSome_remoteDomain_iff : c.remoteDomain.isSome = true ↔ c.HasRemoteDomain := by
  rw [remoteDomain, HasRemoteDomain]
  cases c.standing.origin with
  | «local» => simp [Origin.domain]
  | remote domain => simp [Origin.domain, Option.isSome_iff_exists]

/-- A remote origin is one with a domain that may be unknown. -/
lemma isRemote_iff : c.standing.origin.isRemote = true ↔
    ∃ domain, c.standing.origin = .remote domain := by
  cases c.standing.origin with
  | «local» => simp [Origin.isRemote]
  | remote domain => simp [Origin.isRemote]

/-- Moderation takes a viewer who is signed in, is not the subject and has the permission. -/
lemma moderates_iff {flag : Permissions} :
    (c.session.signedIn && !c.standing.isSelf && c.session.can flag) = true ↔
      c.session.signedIn = true ∧ c.standing.isSelf = false ∧
        c.session.permissions.contains flag = true := by
  rw [Session.can]
  cases c.session.signedIn <;> simp

/-- The conditions of the sections are those of the table. -/
lemma lists_iff_due {a : Action} : c.lists a = true ↔ c.Due a := by
  cases a
  case mention | directMention =>
    rw [lists, Bool.and_eq_true, Bool.not_eq_true']
    rfl
  case openHomePage =>
    simp only [lists, Bool.and_eq_true, isRemote_iff, Option.any_eq_true, isWebAddress_iff]
    rfl
  case hideReblogs | showReblogs | changeLanguages | endorse | unendorse =>
    exact any_ties_iff fun t => by simp [and_assoc]
  case manageLists | removeFromFollowers | mute | unmute | block | unblock =>
    exact any_ties_iff fun t => by simp
  case report =>
    simp only [lists, Bool.and_eq_true, Bool.not_eq_true', and_assoc, Option.isSome_iff_ne_none]
    rfl
  case blockDomain | unblockDomain =>
    rw [lists, Bool.and_eq_true, isSome_remoteDomain_iff]
    exact and_congr_left' (any_ties_iff fun t => by simp)
  case moderateAccount => exact moderates_iff
  case moderateDomain =>
    rw [lists, Bool.and_eq_true, moderates_iff, isSome_remoteDomain_iff, and_assoc, and_assoc]
    rfl
  all_goals exact iff_of_false nofun id

instance (c : Context) : DecidablePred c.Due :=
  fun _ => decidable_of_iff _ lists_iff_due

/-- Conditions that exclude each other are not both met by one relationship. -/
lemma not_relational {p q : Ties → Prop} (apart : ∀ t, p t → ¬ q t) (holds : c.Relational p) :
    ¬ c.Relational q := by
  obtain ⟨-, -, -, -, t, known, p⟩ := holds
  rintro ⟨-, -, -, -, t', known', q⟩
  cases known.symm.trans known'
  exact apart t p q

/-- Of two alternatives, at most one is due. -/
lemma not_due_alternative {a b : Action} (other : alternative? a = some b) (due : c.Due a) :
    ¬ c.Due b := by
  cases a
  case hideReblogs =>
    cases other
    exact not_relational (fun t shown hidden => nomatch shown.2.2.symm.trans hidden.2.2) due
  case endorse =>
    cases other
    exact not_relational (fun t no yes => nomatch no.2.symm.trans yes.2) due
  case mute | block =>
    cases other
    exact not_relational (fun t no yes => nomatch no.symm.trans yes) due
  case blockDomain =>
    cases other
    intro due'
    exact not_relational (fun t no yes => nomatch no.symm.trans yes) due.1 due'.1
  all_goals cases other

/-! ## The menu -/

/-- The actions of a menu are the due ones among those of the slots, in their order. -/
structure InOrder (c : Context) : Prop where
  canonical : actions c.entries = slots.flatten.filter (c.Due ·)
  once : (actions c.entries).Nodup
  alternatives : ∀ slot ∈ slots,
    slot.Pairwise fun a b => ¬ (a ∈ actions c.entries ∧ b ∈ actions c.entries)
  ordered : (actions c.entries).Sublist slots.flatten

/-- The actions of a menu are the due ones among those of the slots, in their order. -/
lemma actions_eq (c : Context) : actions c.entries = slots.flatten.filter (c.Due ·) := by
  have same : ∀ a, c.lists a = decide (c.Due a) := fun a =>
    Bool.eq_iff_iff.2 (lists_iff_due.trans decide_eq_true_iff.symm)
  rw [actions, items_eq, listed, List.map_map]
  calc (order.filter c.lists).map (MenuItem.action ∘ c.item)
      = order.filter c.lists := List.map_id _
    _ = slots.flatten.filter (c.Due ·) := List.filter_congr fun a _ => same a

/-- Of the actions of a slot, at most one is due. -/
lemma alternatives_of_due {slot : List Action} (mem : slot ∈ slots) :
    slot.Pairwise fun a b => ¬ (c.Due a ∧ c.Due b) := by
  obtain ⟨a, -, rfl⟩ := List.mem_map.1 mem
  cases other : alternative? a with
  | none => exact List.pairwise_singleton _ a
  | some b => exact List.pairwise_pair.2 fun both => not_due_alternative other both.1 both.2

/-- Whatever a menu offers, it offers in one order. -/
theorem inOrder (c : Context) : c.InOrder := by
  have canonical := c.actions_eq
  have sublist : (actions c.entries).Sublist slots.flatten := by
    rw [canonical]
    exact List.filter_sublist
  have slots_nodup : slots.flatten.Nodup := by decide
  constructor
  case canonical => exact canonical
  case once => exact slots_nodup.sublist sublist
  case ordered => exact sublist
  case alternatives =>
    intro slot mem
    apply (alternatives_of_due mem).imp
    intro a b apart both
    rw [mem_actions, mem_actions, lists_iff_due, lists_iff_due] at both
    exact apart both

end Menu.Context

end ProfileControls
