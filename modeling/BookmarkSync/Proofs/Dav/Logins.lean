import BookmarkSync.Dav.Client
import BookmarkSync.Dav.Tree
import BookmarkSync.Proofs.Remote.Seen

/-!
# `BookmarkSync.Proofs.Dav.Logins` — what a server learns of a password

A password goes into the header that a request logs in with, and nowhere else. So two clients whose registries
differ in passwords only send the same requests but for what that header says, as long as they are answered
alike; and they are, by a server whose replies do not depend on it (`blind_remote`). That is shown for a
single request (`sendAlike_of_unnoticed`) and carried through the operations of the client by one lemma for
each of them. The same lemmas say that writing requests down changes nothing (`listened_seenAs`).
-/

namespace BookmarkSync

/-! ## Without passwords -/

def Credential.withoutPassword (c : Credential) : Credential := { c with password := "" }

namespace Registry

def withoutPasswords (r : Registry) : Registry := ⟨r.credentials.map Credential.withoutPassword⟩

variable (r : Registry) (a : Authority)

/-- Credentials are registered, dropped and found by their authorities, so it makes no difference when their
passwords are taken away. -/
theorem withoutPasswords_erase : (r.erase a).withoutPasswords = r.withoutPasswords.erase a := by
  simp only [withoutPasswords, erase, List.filter_map]
  rfl

theorem withoutPasswords_insert (c : Credential) :
    (r.insert c).withoutPasswords = r.withoutPasswords.insert c.withoutPassword := by
  have herase := congrArg credentials (r.withoutPasswords_erase c.authority)
  exact congrArg (fun cs => Registry.mk (c.withoutPassword :: cs)) herase

theorem find?_withoutPasswords : r.withoutPasswords.find? a = (r.find? a).map Credential.withoutPassword := by
  simp only [withoutPasswords, find?, List.find?_map]
  rfl

end Registry

/-! ## Two runs side by side -/

/-- Two operations answer the same, and leave states that are related by `R`. -/
structure SameAnswer {α σ τ : Type} (R : σ → τ → Prop) (r : α × σ) (r' : α × τ) : Prop where
  answer : r.1 = r'.1
  state : R r.2 r'.2

/-- The answer that both give, and the two states. -/
theorem SameAnswer.split {α σ τ : Type} {R : σ → τ → Prop} {r : α × σ} {r' : α × τ}
    (h : SameAnswer R r r') :
    ∃ a s s', r = (a, s) ∧ r' = (a, s') ∧ R s s' :=
  ⟨r.1, r.2, r'.2, rfl, Prod.ext h.answer.symm rfl, h.state⟩

/-- Answers that are the same lead to the same. -/
theorem SameAnswer.map {α β σ τ : Type} {R : σ → τ → Prop} {r : α × σ} {r' : α × τ}
    (h : SameAnswer R r r') (f : α → β) :
    SameAnswer R (f r.1, r.2) (f r'.1, r'.2) :=
  ⟨congrArg f h.answer, h.state⟩

/-- Operations that leave the same state, seen through a view, are the same through it. -/
theorem SameAnswer.seen {α σ τ : Type} {view : σ → τ} {r : α × σ} {r' : α × τ}
    (h : SameAnswer (fun s s' => view s = s') r r') : r.map id view = r' :=
  Prod.ext h.answer h.state

/-- The remote does not tell passwords apart. It learns of credentials only when it is asked for something,
and from two states on that are related by `R`, its operations then agree, whichever passwords are in the
registry. -/
structure Remote.Blind {ρ : Type} (R : ρ → ρ → Prop) (remote : Remote ρ) : Prop where
  opened : ∀ c far, remote.opened c far = far
  closed : ∀ a far, remote.closed a far = far
  has : ∀ {reg reg' : Registry}, reg.withoutPasswords = reg'.withoutPasswords →
    ∀ l far far', R far far' → SameAnswer R (remote.has reg l far) (remote.has reg' l far')
  createDirectories : ∀ {reg reg' : Registry}, reg.withoutPasswords = reg'.withoutPasswords →
    ∀ l far far', R far far' →
      SameAnswer R (remote.createDirectories reg l far) (remote.createDirectories reg' l far')
  read : ∀ {reg reg' : Registry}, reg.withoutPasswords = reg'.withoutPasswords →
    ∀ l far far', R far far' → SameAnswer R (remote.read reg l far) (remote.read reg' l far')
  write : ∀ {reg reg' : Registry}, reg.withoutPasswords = reg'.withoutPasswords →
    ∀ l content far far', R far far' →
      SameAnswer R (remote.write reg l content far) (remote.write reg' l content far')

namespace Dav

/-- The request without what its login says. -/
def Request.redacted (r : Request) : Request := { r with authorization := r.authorization.map fun _ => "" }

/-- The request of a location is the same with other passwords, but for what its login says. -/
theorem Request.redacted_of {registry registry' : Registry}
    (h : registry.withoutPasswords = registry'.withoutPasswords) (method : Method) (l : Location) (url : String)
    (body : List UInt8) :
    (Request.of registry method l url body).map redacted
      = (Request.of registry' method l url body).map redacted := by
  have hlogin : ∀ reg : Registry, ((reg.find? l.authority).map basicAuthorization).map (fun _ => "")
      = (reg.withoutPasswords.find? l.authority).map fun _ => "" := by
    intro reg
    rw [reg.find?_withoutPasswords, Option.map_map, Option.map_map]
    rfl
  unfold Request.of
  cases Url.parse url with
  | error f => rfl
  | ok u =>
    by_cases haddressable : isAddressable u = true
    · simp only [haddressable, if_true, Except.map, redacted, hlogin, h]
    · simp only [haddressable, Bool.false_eq_true, if_false, Except.map]

variable {σ τ : Type}

/-! ## Servers that do not look at logins -/

/-- What a server replies to some requests, one after the other. -/
def replies (server : Server σ) : σ → List Request → List Reply
  | _, [] => []
  | s, r :: rs => (server r s).1 :: replies server (server r s).2 rs

/-- From the two states on, the server replies the same to requests that differ in their logins only. -/
def RepliesAlike (server : Server σ) (s s' : σ) : Prop :=
  ∀ rs rs' : List Request, rs.map Request.redacted = rs'.map Request.redacted →
    replies server s rs = replies server s' rs'

/-- Servers that reply alike do so after every request that looks alike. -/
theorem RepliesAlike.step {server : Server σ} {s s' : σ} (h : RepliesAlike server s s') {r r' : Request}
    (hr : r.redacted = r'.redacted) : SameAnswer (RepliesAlike server) (server r s) (server r' s') := by
  constructor
  · have hreplies := h [r] [r'] (congrArg (fun q => [q]) hr)
    exact List.head_eq_of_cons_eq hreplies
  · intro rs rs' hrs
    have hreplies := h (r :: rs) (r' :: rs') (by rw [List.map_cons, List.map_cons, hr, hrs])
    exact List.tail_eq_of_cons_eq hreplies

/-- A server that does the same whatever a login says. What it keeps may not depend on logins either. -/
theorem repliesAlike_of_blind {server : Server σ} (h : ∀ r s, server r.redacted s = server r s) (s : σ) :
    RepliesAlike server s s := by
  intro rs rs' hrs
  induction rs generalizing s rs' with
  | nil =>
    cases rs' with
    | nil => rfl
    | cons r' rs' => cases hrs
  | cons r rs ih =>
    cases rs' with
    | nil => cases hrs
    | cons r' rs' =>
      obtain ⟨hr, hrs⟩ := List.cons.inj hrs
      have hstep : server r s = server r' s := by rw [← h r s, ← h r' s, hr]
      rw [replies, replies, hstep, ih _ _ hrs]

/-- A tree of files does not look at logins. -/
theorem Tree.reply_redacted (r : Request) (t : Tree) : reply r.redacted t = reply r t := by
  have hmethod : r.redacted.method = r.method := rfl
  have hpath : r.redacted.path = r.path := rfl
  have hbody : r.redacted.body = r.body := rfl
  simp only [reply, hmethod, hpath, hbody]

/-! ## Writing requests down -/

/-- A server that replies as another one does, and writes down all requests. -/
def listened (server : Server σ) : Server (σ × List Request) := fun r s =>
  ((server r s.1).1, (server r s.1).2, s.2 ++ [r])

/-- Two servers have been asked the same but for logins, and will not reply differently because of them. -/
structure Unnoticed (server : Server σ) (s s' : σ × List Request) : Prop where
  alike : RepliesAlike server s.1 s'.1
  requests : s.2.map Request.redacted = s'.2.map Request.redacted

/-! ## The operations of the client -/

/-- With these registries, each request of a client is answered alike by the two servers. -/
def SendAlike (R : σ → τ → Prop) (server : Server σ) (registry : Registry) (server' : Server τ)
    (registry' : Registry) : Prop :=
  ∀ method l url body s s', R s s' →
    SameAnswer R (Client.send server registry method l url body s)
      (Client.send server' registry' method l url body s')

/-- **A password is seen in the login only.** Each request of two clients is answered alike, if their
registries differ in passwords only. -/
theorem sendAlike_of_unnoticed (server : Server σ) {registry registry' : Registry}
    (h : registry.withoutPasswords = registry'.withoutPasswords) :
    SendAlike (Unnoticed server) (listened server) registry (listened server) registry' := by
  intro method l url body s s' hs
  have hof := Request.redacted_of h method l url body
  unfold Client.send
  cases hr : Request.of registry method l url body with
  | error f =>
    cases hr' : Request.of registry' method l url body with
    | error f' =>
      rw [hr, hr'] at hof
      cases hof
      exact ⟨rfl, hs⟩
    | ok r' =>
      rw [hr, hr'] at hof
      cases hof
  | ok r =>
    cases hr' : Request.of registry' method l url body with
    | error f' =>
      rw [hr, hr'] at hof
      cases hof
    | ok r' =>
      rw [hr, hr'] at hof
      have hredacted : r.redacted = r'.redacted := Except.ok.inj hof
      have hurl : r.redacted.url = r'.redacted.url := congrArg Request.url hredacted
      have hlog : (s.2 ++ [r]).map Request.redacted = (s'.2 ++ [r']).map Request.redacted := by
        rw [List.map_append, List.map_append, hs.requests, List.map_singleton, List.map_singleton, hredacted]
      obtain ⟨reply, next, next', hsent, hsent', halike⟩ := (hs.alike.step hredacted).split
      have hnext : Unnoticed server (next, s.2 ++ [r]) (next', s'.2 ++ [r']) := ⟨halike, hlog⟩
      simp only [listened, hsent, hsent']
      cases reply with
      | answer status body => exact ⟨rfl, hnext⟩
      | cutShort status body => exact ⟨rfl, hnext⟩
      | none => exact ⟨congrArg (fun u => Except.error (Fault.noAnswer u)) hurl, hnext⟩

/-- What a server keeps besides what it replies from makes no difference. -/
theorem sendAlike_of_view {server : Server σ} {server' : Server τ} (view : σ → τ)
    (h : ∀ r s, (server r s).map id view = server' r (view s)) (registry : Registry) :
    SendAlike (fun s s' => view s = s') server registry server' registry := by
  rintro method l url body s _ rfl
  unfold Client.send
  cases Request.of registry method l url body with
  | error f => exact ⟨rfl, rfl⟩
  | ok r =>
    rcases hsent : server r s with ⟨reply, next⟩
    have hsent' : server' r (view s) = (reply, view next) := by
      rw [← h, hsent]
      rfl
    simp only [hsent, hsent']
    cases reply <;> exact ⟨rfl, rfl⟩

/-- Whether requests are written down makes no difference. -/
theorem sendAlike_listened (server : Server σ) (registry : Registry) :
    SendAlike (fun s s' => s.1 = s') (listened server) registry server registry :=
  sendAlike_of_view Prod.fst (fun _ _ => rfl) registry

section Operations

variable {R : σ → τ → Prop} {server : Server σ} {server' : Server τ} {registry registry' : Registry}
  (h : SendAlike R server registry server' registry') {s : σ} {s' : τ}
include h

/-- **Each operation of the client gets the same answer** from servers that reply alike, one request after the
other. -/
theorem sameAnswer_has (l : Location) (hs : R s s') :
    SameAnswer R (Client.has server registry l s) (Client.has server' registry' l s') :=
  (h .propfind l l.url [] s s' hs).map fun r => r.bind fun a => Client.presence l a.1

/-- The client asks upwards as long as levels are missing, so the same levels are asked about. -/
theorem sameAnswer_missingAbove (found ls : List Location) (hs : R s s') :
    SameAnswer R (Client.missingAbove server registry found ls s)
      (Client.missingAbove server' registry' found ls s') := by
  induction ls generalizing found s s' with
  | nil => exact ⟨rfl, hs⟩
  | cons l ls ih =>
    obtain ⟨there, next, next', hhas, hhas', hnext⟩ := (sameAnswer_has h l hs).split
    simp only [Client.missingAbove, hhas, hhas']
    rcases there with f | there
    · exact ⟨rfl, hnext⟩
    · cases there with
      | true => exact ⟨rfl, hnext⟩
      | false => exact ih (l :: found) hnext

theorem sameAnswer_missing (l : Location) (hs : R s s') :
    SameAnswer R (Client.missing server registry l s) (Client.missing server' registry' l s') := by
  unfold Client.missing
  cases l.ancestorsAndSelf.reverse with
  | nil => exact ⟨rfl, hs⟩
  | cons l ls =>
    obtain ⟨there, next, next', hhas, hhas', hnext⟩ := (sameAnswer_has h l hs).split
    simp only [hhas, hhas']
    rcases there with f | there
    · exact ⟨rfl, hnext⟩
    · cases there with
      | true => exact ⟨rfl, hnext⟩
      | false => exact (sameAnswer_missingAbove h [l] ls hnext).map Except.ok

/-- The client makes levels as long as it succeeds. -/
theorem sameAnswer_makeAll (ls : List Location) (hs : R s s') :
    SameAnswer R (Client.makeAll server registry ls s) (Client.makeAll server' registry' ls s') := by
  induction ls generalizing s s' with
  | nil => exact ⟨rfl, hs⟩
  | cons l ls ih =>
    obtain ⟨answer, next, next', hsent, hsent', hnext⟩ := (h .mkcol l l.collectionUrl [] s s' hs).split
    simp only [Client.makeAll, hsent, hsent']
    rcases answer with f | ⟨status, body⟩
    · exact ⟨rfl, hnext⟩
    · simp only
      cases Client.creation l status with
      | error f => exact ⟨rfl, hnext⟩
      | ok _ => exact ih hnext

theorem sameAnswer_createDirectories (l : Location) (hs : R s s') :
    SameAnswer R (Client.createDirectories server registry l s)
      (Client.createDirectories server' registry' l s') := by
  obtain ⟨levels, next, next', hmissing, hmissing', hnext⟩ := (sameAnswer_missing h l hs).split
  simp only [Client.createDirectories, hmissing, hmissing']
  rcases levels with f | levels
  · exact ⟨rfl, hnext⟩
  · exact sameAnswer_makeAll h levels hnext

theorem sameAnswer_read (l : Location) (hs : R s s') :
    SameAnswer R (Client.read server registry l s) (Client.read server' registry' l s') :=
  (h .get l l.url [] s s' hs).map fun r => r.bind fun a => Client.content l a.1 a.2

theorem sameAnswer_write (l : Location) (bytes : List UInt8) (hs : R s s') :
    SameAnswer R (Client.write server registry l bytes s) (Client.write server' registry' l bytes s') :=
  (h .put l l.url bytes s s' hs).map fun r =>
    r.bind fun a => if a.1.isSuccess then .ok () else .error (.refused .put l a.1)

end Operations

/-! ## As the far side of a sync -/

/-- The same faults are told in the same words. -/
theorem sameAnswer_inWords {α : Type} {R : σ → τ → Prop} {r : Except Fault α × σ} {r' : Except Fault α × τ}
    (h : SameAnswer R r r') : SameAnswer R (inWords r) (inWords r') :=
  h.map fun a => a.mapError fun f => SyncError.transport (Fault.message f)

/-- **A server that does not look at logins does not tell passwords apart.** -/
theorem blind_remote (server : Server σ) : (remote (listened server)).Blind (Unnoticed server) where
  opened _ _ := rfl
  closed _ _ := rfl
  has h l _ _ hfar := sameAnswer_inWords (sameAnswer_has (sendAlike_of_unnoticed server h) l hfar)
  createDirectories h l _ _ hfar :=
    sameAnswer_inWords (sameAnswer_createDirectories (sendAlike_of_unnoticed server h) l hfar)
  read h l _ _ hfar := sameAnswer_inWords (sameAnswer_read (sendAlike_of_unnoticed server h) l hfar)
  write h l bytes _ _ hfar :=
    sameAnswer_inWords (sameAnswer_write (sendAlike_of_unnoticed server h) l bytes hfar)

/-- Seen without what is written down, the server is the one that is listened to. -/
theorem listened_seenAs (server : Server σ) : (remote (listened server)).SeenAs Prod.fst (remote server) where
  opened _ _ := rfl
  closed _ _ := rfl
  has reg l _ := (sameAnswer_inWords (sameAnswer_has (sendAlike_listened server reg) l rfl)).seen
  createDirectories reg l _ :=
    (sameAnswer_inWords (sameAnswer_createDirectories (sendAlike_listened server reg) l rfl)).seen
  read reg l _ := (sameAnswer_inWords (sameAnswer_read (sendAlike_listened server reg) l rfl)).seen
  write reg l bytes _ :=
    (sameAnswer_inWords (sameAnswer_write (sendAlike_listened server reg) l bytes rfl)).seen

end Dav

end BookmarkSync
