import Mathlib.Data.List.Forall2
import MediaPerimeter.Callback.Delivery
import MediaPerimeter.Proofs.Net.Hop

/-!
# Networks that differ in what must not be seen

Two networks are alike if they tell the same of every name, but for addresses that are not public:
where one network tells such an address, the other may tell any other that is not public either. Runs
on the two do the same but for what they were told, and come to the same but for the address in a
refusal. The invariant is carried through a run by one rule for a stage that is followed by another.
-/
namespace MediaPerimeter.Net

/-- Two addresses are the same, or neither may be dialed. -/
def SameAddress (a b : Address) : Prop := a = b ∨ (a.isPublic = false ∧ b.isPublic = false)

inductive SameAnswer : Told → Told → Prop
  | failed (text : String) : SameAnswer (.error text) (.error text)
  | told {addresses addresses' : List Address} (h : List.Forall₂ SameAddress addresses addresses') :
      SameAnswer (.ok addresses) (.ok addresses')

/-- The world behind two networks is the same but for addresses that are not public. -/
structure Network.Alike (n n' : Network) : Prop where
  addresses : ∀ name count, SameAnswer (n.addresses name count) (n'.addresses name count)
  accepts : n'.accepts = n.accepts
  secures : n'.secures = n.secures
  reply : n'.reply = n.reply

inductive Event.Alike : Event → Event → Prop
  | lookup (name : Text) {told told'} (h : SameAnswer told told') :
      Alike (.lookup name told) (.lookup name told')
  | dial (e : Endpoint) : Alike (.dial e) (.dial e)
  | request (r : Request) : Alike (.request r) (.request r)

def Log.Alike : Log → Log → Prop := List.Forall₂ Event.Alike

theorem SameAddress.refl (a : Address) : SameAddress a a := .inl rfl

theorem SameAnswer.refl (told : Told) : SameAnswer told told := by
  cases told with
  | error text => exact .failed text
  | ok addresses => exact .told (List.forall₂_same.mpr fun a _ => .refl a)

theorem Log.Alike.refl (log : Log) : log.Alike log := by
  refine List.forall₂_same.mpr fun e _ => ?_
  cases e with
  | lookup name told => exact .lookup name (.refl told)
  | dial e => exact .dial e
  | request r => exact .request r

variable {n n' : Network} {log log' : Log}

theorem Log.Alike.append {new new' : Log} (h : log.Alike log') (hnew : new.Alike new') :
    Log.Alike (log ++ new) (log' ++ new') :=
  List.rel_append h hnew

theorem Log.Alike.lookups_eq (h : log.Alike log') (name : Text) :
    log'.lookups name = log.lookups name := by
  unfold Log.lookups
  induction h with
  | nil => rfl
  | cons he _ ih => cases he <;> simp only [List.countP_cons, ih]

theorem Log.Alike.dials_eq (h : log.Alike log') : log'.dials = log.dials := by
  unfold Log.dials
  induction h with
  | nil => rfl
  | cons he _ ih => cases he <;> simp only [List.filterMap_cons, ih]

theorem Log.Alike.requests_eq (h : log.Alike log') : log'.requests = log.requests := by
  unfold Log.requests
  induction h with
  | nil => rfl
  | cons he _ ih => cases he <;> simp only [List.filterMap_cons, ih]

/-- From logs that are alike two actions come to results in the relation, and to logs that are
alike. -/
def Action.Alike {α β : Type} (R : α → β → Prop) (x : Action α) (y : Action β) : Prop :=
  ∀ log log' : Log, log.Alike log' →
    R (x.run log).1 (y.run log').1 ∧ (x.run log).2.Alike (y.run log').2

namespace Action.Alike

variable {α β γ δ : Type} {R : α → β → Prop} {S : γ → δ → Prop}

theorem pure {a : α} {b : β} (h : R a b) : Alike R (Pure.pure a) (Pure.pure b) :=
  fun _ _ hlog => ⟨h, hlog⟩

theorem bind {x : Action α} {y : Action β} {f : α → Action γ} {g : β → Action δ} (h : Alike R x y)
    (hf : ∀ a b, R a b → Alike S (f a) (g b)) : Alike S (x >>= f) (y >>= g) := by
  intro log log' hlog
  obtain ⟨hresult, hafter⟩ := h log log' hlog
  exact hf _ _ hresult _ _ hafter

end Action.Alike

/-- Two outcomes are the same, or they are refusals in the relation. -/
inductive Veiled {ε α : Type} (R : ε → ε → Prop) : Except ε α → Except ε α → Prop
  | same (x : Except ε α) : Veiled R x x
  | refused {f g : ε} (h : R f g) : Veiled R (.error f) (.error g)

theorem alike_lookup (hn : n.Alike n') (name : Text) :
    Action.Alike SameAnswer (n.lookup name) (n'.lookup name) := by
  intro log log' hlog
  have htold : SameAnswer (n.told log name) (n'.told log' name) := by
    unfold Network.told
    cases Address.ofText? name with
    | some a => exact .refl _
    | none =>
      rw [hlog.lookups_eq]
      exact hn.addresses name _
  have hlooked : Log.Alike (lookedUp name (n.told log name)) (lookedUp name (n'.told log' name)) := by
    unfold lookedUp
    split
    · exact List.Forall₂.nil
    · exact List.Forall₂.cons (.lookup name htold) List.Forall₂.nil
  rw [Network.run_lookup, Network.run_lookup]
  exact ⟨htold, hlog.append hlooked⟩

theorem alike_dial (hn : n.Alike n') (e : Endpoint) :
    Action.Alike Eq (n.dial e) (n'.dial e) := by
  intro log log' hlog
  rw [Network.run_dial, Network.run_dial, hn.accepts]
  exact ⟨rfl, hlog.append (List.Forall₂.cons (.dial e) List.Forall₂.nil)⟩

theorem alike_secure (hn : n.Alike n') : Action.Alike Eq n.secure n'.secure := by
  intro log log' hlog
  rw [Network.run_secure, Network.run_secure, hn.secures, hlog.dials_eq]
  exact ⟨rfl, hlog⟩

theorem alike_ask (hn : n.Alike n') (r : Request) : Action.Alike Eq (n.ask r) (n'.ask r) := by
  intro log log' hlog
  rw [Network.run_ask, Network.run_ask, hn.reply, hlog.requests_eq]
  exact ⟨rfl, hlog.append (List.Forall₂.cons (.request r) List.Forall₂.nil)⟩

/-- Two lists that are alike are the same list, or both are refused. -/
theorem checkAll_alike {as bs : List Address} (h : List.Forall₂ SameAddress as bs) :
    bs = as ∨ ∃ u v, Address.checkAll as = .error u ∧ Address.checkAll bs = .error v := by
  have hrefused : ∀ {a : Address}, a.isPublic = false → a.check = .error ⟨a.reach, a.text⟩ := by
    intro a ha
    rw [Address.check, ha, if_neg Bool.false_ne_true]
  induction h with
  | nil => exact .inl rfl
  | @cons a b as bs hab _ ih =>
    rw [Address.checkAll, Address.checkAll]
    rcases hab with rfl | ⟨ha, hb⟩
    · cases a.check with
      | error u => exact .inr ⟨u, u, rfl, rfl⟩
      | ok v => exact ih.imp (congrArg _) id
    · rw [hrefused ha, hrefused hb]
      exact .inr ⟨_, _, rfl, rfl⟩

/-- Answers that are alike are the same, or neither is empty and both are refused. -/
theorem SameAnswer.eq_or_refused {told told' : Told} (h : SameAnswer told told') : told' = told ∨
    ∃ a as b bs u v, told = .ok (a :: as) ∧ told' = .ok (b :: bs) ∧
      Address.checkAll (a :: as) = .error u ∧ Address.checkAll (b :: bs) = .error v := by
  cases h with
  | failed => exact .inl rfl
  | told h =>
    cases h with
    | nil => exact .inl rfl
    | cons hab hrest =>
      rcases checkAll_alike (.cons hab hrest) with hsame | ⟨u, v, hu, hv⟩
      · exact .inl (congrArg Except.ok hsame)
      · exact .inr ⟨_, _, _, _, u, v, rfl, rfl, hu, hv⟩

inductive Guard.Fault.Alike : Guard.Fault → Guard.Fault → Prop
  | unsafeAddress (u v : UnsafeAddress) : Alike (.unsafeAddress u) (.unsafeAddress v)

theorem Guard.approve_alike {told told' : Told} (h : SameAnswer told told') (name : Text) :
    Veiled Guard.Fault.Alike (approve name told) (approve name told') := by
  rcases h.eq_or_refused with rfl | ⟨a, as, b, bs, u, v, rfl, rfl, hu, hv⟩
  · exact .same _
  · simp only [approve, hu, hv]
    exact .refused (.unsafeAddress u v)

theorem Guard.alike_resolve (hn : n.Alike n') (name : Text) :
    Action.Alike (Veiled Guard.Fault.Alike) (resolve n name) (resolve n' name) :=
  (alike_lookup hn name).bind fun _ _ htold => .pure (approve_alike htold name)

namespace Egress

theorem alike_connect (hn : n.Alike n') (port : Nat) (addresses : List Address) :
    Action.Alike Eq (connect n port addresses) (connect n' port addresses) := by
  induction addresses with
  | nil => exact .pure rfl
  | cons a rest ih =>
    refine (alike_dial hn ⟨a, port⟩).bind ?_
    rintro accepted _ rfl
    cases accepted with
    | true => exact .pure rfl
    | false => exact ih

inductive SendFault.Alike : SendFault → SendFault → Prop
  | unsafeDestination (u v : UnsafeAddress) : Alike (.unsafeDestination u) (.unsafeDestination v)

inductive Fault.Alike : Fault → Fault → Prop
  | unsafeDestination (u v : UnsafeAddress) : Alike (.unsafeDestination u) (.unsafeDestination v)

theorem alike_addressesOf (hn : n.Alike n') (host : Url.Host) :
    Action.Alike (Veiled SendFault.Alike) (addressesOf n host) (addressesOf n' host) := by
  unfold addressesOf
  cases host.address? with
  | some a => exact .pure (.same _)
  | none =>
    refine (Guard.alike_resolve hn host.text).bind ?_
    rintro x y (_ | ⟨u, v⟩)
    · rcases x with fault | addresses
      · cases fault <;> exact .pure (.same _)
      · exact .pure (.same _)
    · exact .pure (.refused (.unsafeDestination u v))

theorem alike_prepare (hn : n.Alike n') (scheme : Text) :
    Action.Alike Eq (prepare n scheme) (prepare n' scheme) := by
  unfold prepare
  split
  · exact alike_secure hn
  · exact .pure rfl

theorem alike_send (hn : n.Alike n') (r : Request) :
    Action.Alike (Veiled SendFault.Alike) (send n r) (send n' r) := by
  unfold send
  cases r.url.host with
  | none => exact .pure (.same _)
  | some host =>
    cases r.url.dialPort? with
    | none => exact .pure (.same _)
    | some port =>
      refine (alike_addressesOf hn host).bind ?_
      rintro x y (_ | h)
      · rcases x with fault | addresses
        · exact .pure (.same _)
        · refine (alike_connect hn port (dialOrder addresses)).bind ?_
          rintro connected _ rfl
          cases connected with
          | false => exact .pure (.same _)
          | true =>
            refine (alike_prepare hn r.url.scheme).bind ?_
            rintro handshake _ rfl
            cases handshake with
            | silence | refused => exact .pure (.same _)
            | secured =>
              refine (alike_ask hn r).bind ?_
              rintro reply _ rfl
              cases reply <;> exact .pure (.same _)
      · exact .pure (.refused h)

theorem alike_follow (hn : n.Alike n') (first : Text) (left : Nat) (r : Request) :
    Action.Alike (Veiled Fault.Alike) (follow n first left r) (follow n' first left r) := by
  induction left generalizing r with
  | zero =>
    unfold follow
    refine (alike_send hn r).bind ?_
    rintro x y (_ | ⟨u, v⟩)
    · rcases x with fault | answer
      · cases fault <;> exact .pure (.same _)
      · dsimp only
        cases redirection? r answer <;> exact .pure (.same _)
    · exact .pure (.refused (.unsafeDestination u v))
  | succ left ih =>
    unfold follow
    refine (alike_send hn r).bind ?_
    rintro x y (_ | ⟨u, v⟩)
    · rcases x with fault | answer
      · cases fault <;> exact .pure (.same _)
      · dsimp only
        cases redirection? r answer with
        | none => exact .pure (.same _)
        | some next =>
          dsimp only
          cases checkHop _ r next with
          | error f => exact .pure (.same _)
          | ok u => exact ih _
    · exact .pure (.refused (.unsafeDestination u v))

theorem alike_call (hn : n.Alike n') (method : Method) (body : Option Json) (raw : Text) :
    Action.Alike (Veiled Fault.Alike) (call n method body raw) (call n' method body raw) := by
  unfold call
  cases readUrl raw with
  | error f => exact .pure (.same _)
  | ok u =>
    dsimp only
    cases isSendable (withoutCredentials u) with
    | false => exact .pure (.same _)
    | true => exact alike_follow hn _ _ _

end Egress
end MediaPerimeter.Net
