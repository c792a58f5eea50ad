import Rpc.Tls.Handshake

/-! # What the decisions of both ends come to

Of the library only its laws are known. From them a server makes a connection for a client exactly
when the client accepts the certificate of the server, the server accepts what it is shown, and it
is shown something if it has to be.
-/
namespace Rpc.Tls

open Net

variable {κ : Type}

/-- What is relied on in a library. -/
structure Library.Sound (l : Library κ) : Prop where
  asks : ∀ c s, (l c s).asked = s.scrutiny.isSome
  client : ∀ c s, (l c s).client = .ok () ↔ c.verify s.certificate = .ok ()
  /-- A client that goes on shows what it has, if it was asked. -/
  shows : ∀ c s, (l c s).client = .ok () →
    (l c s).shown = if (l c s).asked then c.certificate else none
  server : ∀ c s, (l c s).server = .ok () ↔
    (l c s).client = .ok () ∧ s.judge (l c s).shown = .ok ()

theorem Library.standard_sound : (Library.standard : Library κ).Sound := by
  constructor
  · intro c s
    unfold standard
    split <;> rfl
  all_goals
    intro c s
    unfold standard
    cases c.verify s.certificate <;> simp

/-- The validator has the last word, or else the public key infrastructure. -/
def Check.Accepted (c : Check κ) : Option (Validator κ) → Prop
  | some accepts => accepts c = true
  | none => c.error = none

theorem Check.decide_eq_ok_iff (c : Check κ) (validator : Option (Validator κ)) :
    c.decide validator = .ok () ↔ c.Accepted validator := by
  cases validator with
  | none => cases he : c.error <;> simp [decide, Accepted, he]
  | some accepts => cases ha : accepts c <;> simp [decide, Accepted, ha]

def ClientPolicy.presents (c : ClientPolicy κ) (s : ServerPolicy κ) : Option κ :=
  if s.asks then c.certificate else none

/-- A client and a server are content with each other. -/
structure Content (a : Authority κ) (name : ServerName) (c : ClientPolicy κ) (s : ServerPolicy κ) :
    Prop where
  client : (c.check a name s.certificate).Accepted c.validator
  server : ∀ k, c.presents s = some k → (s.check a k).Accepted s.validator
  required : s.required = true → (c.presents s).isSome = true

namespace Library.Sound

variable {l : Library κ} {a : Authority κ} {name : ServerName} {c : ClientPolicy κ}
  {s : ServerPolicy κ}

theorem asked (hl : l.Sound) : (l (c.part a name) (s.part a)).asked = s.asks := by
  rw [hl.asks, ServerPolicy.part]
  cases s.asks <;> rfl

theorem client_iff (hl : l.Sound) : (l (c.part a name) (s.part a)).client = .ok () ↔
    (c.check a name s.certificate).Accepted c.validator :=
  (hl.client _ _).trans (Check.decide_eq_ok_iff _ _)

theorem shown (hl : l.Sound) (hc : (l (c.part a name) (s.part a)).client = .ok ()) :
    (l (c.part a name) (s.part a)).shown = c.presents s := by
  rw [hl.shows _ _ hc, hl.asked]
  rfl

/-- What a server of a policy makes of what it is shown; nothing is no fault. -/
theorem judge_presents_iff : (s.part a).judge (c.presents s) = .ok () ↔
    ∀ k, c.presents s = some k → (s.check a k).Accepted s.validator := by
  cases hs : c.presents s with
  | none =>
    refine iff_of_true ?_ fun k hk => nomatch hk
    cases ha : s.asks <;> simp [ServerPart.judge, ServerPolicy.part, ha]
  | some k =>
    have ha : s.asks = true := by
      unfold ClientPolicy.presents at hs
      split at hs
      · assumption
      · cases hs
    have hjudge : (s.part a).judge (some k) = (s.verify a k).mapError .objection := by
      simp [ServerPart.judge, ServerPolicy.part, ha]
    have hmap : (s.verify a k).mapError Breach.objection = .ok () ↔ s.verify a k = .ok () := by
      cases s.verify a k with
      | ok u => exact iff_of_true rfl rfl
      | error e => exact iff_of_false (fun h => nomatch h) fun h => nomatch h
    rw [hjudge, hmap, ServerPolicy.verify, Check.decide_eq_ok_iff]
    exact ⟨fun h k' hk' => Option.some.inj hk' ▸ h, fun h => h k rfl⟩

theorem server_iff (hl : l.Sound) : (l (c.part a name) (s.part a)).server = .ok () ↔
    (c.check a name s.certificate).Accepted c.validator ∧
      ∀ k, c.presents s = some k → (s.check a k).Accepted s.validator := by
  rw [hl.server, hl.client_iff]
  refine and_congr_right fun haccepted => ?_
  rw [hl.shown (hl.client_iff.mpr haccepted), judge_presents_iff]

end Library.Sound

/-! ## Outcomes of a negotiation -/

variable {l : Library κ} {a : Authority κ} {host : String} {name : ServerName}
  {c : ClientPolicy κ} {s : ServerPolicy κ}

theorem meet_of_named (hname : ServerName.parse host = .ok name) :
    meet l a host c s = ⟨c.conclude host (l (c.part a name) (s.part a)),
      s.conclude (l (c.part a name) (s.part a))⟩ := by
  simp only [meet, hname]

/-- A client that accepts its server knows whether it could not show what it was asked for. -/
theorem meet_client (hl : l.Sound) (hname : ServerName.parse host = .ok name) (f : Facts) :
    (meet l a host c s).client = .ok f ↔
      (c.check a name s.certificate).Accepted c.validator ∧
        f = ⟨true, c.certificate.isSome, c.certificate.isNone && s.asks⟩ := by
  have hiff : (l (c.part a name) (s.part a)).client = .ok () ↔ _ := hl.client_iff
  rw [meet_of_named hname, ClientPolicy.conclude, hl.asked, ← hiff]
  cases (l (c.part a name) (s.part a)).client with
  | ok u => simp [eq_comm]
  | error e => cases e <;> simp

/-- A server that comes to a good end has found both content, and knows what it was shown. -/
theorem meet_server (hl : l.Sound) (hname : ServerName.parse host = .ok name) (f : Facts) :
    (meet l a host c s).server = .ok f ↔
      Content a name c s ∧ f = ⟨true, (c.presents s).isSome, false⟩ := by
  have hiff : (l (c.part a name) (s.part a)).server = .ok () ↔ _ := hl.server_iff
  rw [meet_of_named hname, ServerPolicy.conclude]
  cases hserver : (l (c.part a name) (s.part a)).server with
  | error e =>
    have hnot : ¬ Content a name c s := fun h => by
      rw [hiff.mpr ⟨h.client, h.server⟩] at hserver
      cases hserver
    cases e <;> simp [hnot]
  | ok u =>
    obtain ⟨haccepted, hshown⟩ := hiff.mp hserver
    rw [hl.shown (hl.client_iff.mpr haccepted)]
    have hcontent : Content a name c s ↔ (s.required && (c.presents s).isNone) = false := by
      refine Iff.trans ⟨Content.required, fun h => ⟨haccepted, hshown, h⟩⟩ ?_
      cases s.required <;> cases c.presents s <;> simp
    rw [hcontent]
    cases s.required && (c.presents s).isNone with
    | true => simp
    | false => simp [eq_comm]

/-- A client without the certificate that the server requires is accepted in the handshake, and
turned down after it. -/
theorem meet_of_missing (hl : l.Sound) (hname : ServerName.parse host = .ok name)
    (haccepted : (c.check a name s.certificate).Accepted c.validator) (hrequired : s.required = true)
    (hnone : c.certificate = none) :
    meet l a host c s = ⟨.ok ⟨true, false, true⟩, .error .clientCertificateRequired⟩ := by
  have hpresents : c.presents s = none := by simp [ClientPolicy.presents, hnone]
  have hclient := hl.client_iff.mpr haccepted
  have hserver := hl.server_iff.mpr ⟨haccepted, fun k hk => nomatch hpresents.symm.trans hk⟩
  have hasks : s.asks = true := by simp [ServerPolicy.asks, hrequired]
  rw [meet_of_named hname, ClientPolicy.conclude, ServerPolicy.conclude, hclient, hserver]
  simp [hl.shown hclient, hl.asked, hpresents, hnone, hrequired, hasks]

end Rpc.Tls
