import Rpc.Proofs.Archive.ReadBack
import Rpc.Proofs.Connection.Frames
import Rpc.Proofs.Connection.Story

/-! # Where the receive loop stands

On a connection that is up the receive loop reads, or waits for one frame of its own to be written:
a greeting or a refusal, behind which it reads on, or the notice of a violation, behind which it
leaves. Calls and handlers do not move it. A connection is quiet as long as nobody stops it, gives
up a call or fails to write.
-/
namespace Rpc

open Message

def Event.isQuiet : Event → Bool
  | .stop | .expire _ | .cancel _ | .abandon _ | .failWrite _ _ => false
  | _ => true

def Purpose.isMessage : Purpose → Bool
  | .call _ _ | .answer => true
  | _ => false

/-- The violation that a frame tells its receiver of. -/
def Frame.complaint? (f : Frame) : Option (UInt32 × String) :=
  if f.kind = .control then
    match frameNotice f with
    | .ok (.violation code details) => some (code, details)
    | _ => none
  else none

/-- Where the receive loop of a connection stands that was brought up. -/
inductive Mode
  | reading
  | pausing
  /-- It writes the notice of a violation and then leaves. -/
  | violating (code : UInt32) (details : String)
  | ended

def Finale.mode : Finale → Mode
  | .violation code details => .violating code details
  | .parting => .ended

/-- How the story ends with a piece, if it does. -/
def Incoming.finale? (side : Side) : Incoming → Option Finale
  | .frame f => f.finale? side
  | .malformed e => some (.ofFlaw e)
  | .broken _ | .ended => some .parting

theorem complaint?_violation {code : UInt32} {details : String} {f : Frame}
    (h : noticeFrame (.violation code details) = .ok f) : f.complaint? = some (code, details) := by
  obtain ⟨bytes, hbytes, rfl⟩ := noticeFrame_ok h
  have hnotice : frameNotice (.control bytes) = Notice.ofBytes bytes := rfl
  have hkind : (Frame.control bytes).kind = .control := rfl
  rw [Frame.complaint?, if_pos hkind, hnotice, Notice.ofBytes_violation hbytes]

theorem complaint?_of_ne_control {f : Frame} (h : f.kind ≠ .control) : f.complaint? = none :=
  if_neg h

namespace Connection

variable {σ : Type} {p : Profile σ} {c : Connection σ}

/-- The writers that the receive loop has to do with, and those of a start and a stop. -/
def loopWriters (c : Connection σ) : List (Nat × Writer) :=
  c.writers.filter fun x => !x.2.purpose.isMessage

/-- What is to be seen of a connection whose receive loop stands somewhere. -/
def Stands (c : Connection σ) : Mode → Prop
  | .reading => c.phase = .connected ∧ c.shut = false ∧ c.loop = .reading ∧ c.loopWriters = []
  | .pausing => c.phase = .connected ∧ c.shut = false ∧ c.loop = .paused ∧
    ∃ w v, c.loopWriters = [(w, v)] ∧ (v.purpose = .greetingBack ∨ v.purpose = .turnDown) ∧
      v.frame.complaint? = none
  | .violating code details => c.phase = .connected ∧ c.shut = false ∧ c.loop = .paused ∧
    ∃ w f, c.loopWriters = [(w, ⟨.violation, f⟩)] ∧
      noticeFrame (.violation code details) = .ok f
  | .ended => c.phase = .disconnected ∧ c.shut = true ∧ c.loop = .over ∧ c.loopWriters = []

/-- A step keeps all that shows where the receive loop stands. -/
structure KeepsLoop (c after : Connection σ) : Prop where
  phase : after.phase = c.phase
  shut : after.shut = c.shut
  loop : after.loop = c.loop
  writers : after.loopWriters = c.loopWriters

theorem Stands.keep {mode : Mode} {after : Connection σ} (h : c.Stands mode)
    (hkeep : KeepsLoop c after) : after.Stands mode := by
  cases mode <;>
    (unfold Stands; rw [hkeep.phase, hkeep.shut, hkeep.loop, hkeep.writers]; exact h)

theorem keepsLoop_enqueue {purpose : Purpose} {f : Frame} {after : Connection σ}
    (h : c.enqueue p purpose f = .ok after) (hpurpose : purpose.isMessage = true) :
    KeepsLoop c after := by
  obtain ⟨-, rfl⟩ := enqueue_ok h
  refine ⟨rfl, rfl, rfl, ?_⟩
  simp [loopWriters, hpurpose]

theorem keepsLoop_refl : KeepsLoop c c := ⟨rfl, rfl, rfl, rfl⟩

theorem KeepsLoop.trans {mid after : Connection σ} (h : KeepsLoop c mid)
    (h' : KeepsLoop mid after) : KeepsLoop c after :=
  ⟨h'.phase.trans h.phase, h'.shut.trans h.shut, h'.loop.trans h.loop, h'.writers.trans h.writers⟩

theorem KeepsLoop.finish {before : Connection σ} (h : KeepsLoop c before) (caller : Nat)
    (ending : Ending) : KeepsLoop c (before.finish caller ending).1 :=
  h.trans ⟨forget_phase before caller, forget_shut before caller, forget_loop before caller,
    by simp [loopWriters, Connection.finish]⟩

theorem call_keepsLoop {caller : Nat} {expects : Bool} {context : CallContext} {moment : Moment}
    {method : String} {payload : Bytes} :
    KeepsLoop c (c.call caller expects context moment method payload).1 := by
  unfold call
  split
  · exact keepsLoop_refl
  · split
    · exact keepsLoop_refl
    · exact ⟨rfl, rfl, rfl, rfl⟩

theorem frame_keepsLoop {caller : Nat} {k : Call} {n : UInt64} :
    KeepsLoop c (c.frame p caller k n).1 := by
  unfold frame
  simp only
  split
  · refine KeepsLoop.finish ?_ _ _
    exact ⟨rfl, rfl, rfl, rfl⟩
  · split
    · refine KeepsLoop.finish ?_ _ _
      exact ⟨rfl, rfl, rfl, rfl⟩
    · rename_i hq
      obtain ⟨hphase, hshut, hloop, hwriters⟩ := keepsLoop_enqueue hq rfl
      exact ⟨hphase, hshut, hloop, hwriters⟩

theorem advance_keepsLoop (caller : Nat) : KeepsLoop c (c.advance p caller).1 := by
  unfold advance
  split
  · exact keepsLoop_refl
  · rename_i k hk
    split
    · unfold number
      split
      · simp only
        split
        · refine KeepsLoop.finish ?_ _ _
          exact ⟨rfl, rfl, rfl, rfl⟩
        · exact ⟨rfl, rfl, rfl, rfl⟩
      · exact ⟨rfl, rfl, rfl, rfl⟩
    · exact frame_keepsLoop
    · exact keepsLoop_refl
    · split
      · exact keepsLoop_refl
      · exact keepsLoop_refl.finish caller _
      · exact keepsLoop_refl.finish caller _

theorem answer_keepsLoop (handler : Nat) (result : Except Fault Bytes) :
    KeepsLoop c (c.answer p handler result).1 := by
  unfold answer
  split
  · exact keepsLoop_refl
  · simp only
    split
    · exact ⟨rfl, rfl, rfl, rfl⟩
    · split
      · rename_i hq
        obtain ⟨hphase, hshut, hloop, hwriters⟩ := keepsLoop_enqueue hq rfl
        exact ⟨hphase, hshut, hloop, hwriters⟩
      · exact ⟨rfl, rfl, rfl, rfl⟩

/-- A receive loop that stands somewhere is past its start and its greeting. -/
theorem Stands.loop_ne {mode : Mode} (h : c.Stands mode) :
    c.loop ≠ .unstarted ∧ c.loop ≠ .greeting ∧ c.loop ≠ .greeted := by
  have hloop : c.loop = .reading ∨ c.loop = .paused ∨ c.loop = .over := by
    cases mode with
    | reading => exact Or.inl h.2.2.1
    | pausing => exact Or.inr (Or.inl h.2.2.1)
    | violating code details => exact Or.inr (Or.inl h.2.2.1)
    | ended => exact Or.inr (Or.inr h.2.2.1)
  rcases hloop with hl | hl | hl <;> simp [hl]

theorem Stands.ended_of_shut {mode : Mode} (h : c.Stands mode) (hshut : c.shut = true) :
    mode = .ended := by
  cases mode with
  | ended => rfl
  | _ =>
    rw [h.2.1] at hshut
    cases hshut

/-- Only what arrives and what is written moves the receive loop of a quiet connection. -/
theorem quiet_keepsLoop {e : Event} {mode : Mode} (h : c.Stands mode) (hquiet : e.isQuiet = true)
    (hwrite : ∀ w, e ≠ .write w) (harrive : ∀ incoming, e ≠ .arrive incoming) :
    KeepsLoop c (c.step p e).1 := by
  obtain ⟨hstart, hgreeting, hgreeted⟩ := h.loop_ne
  cases e with
  | start =>
    simp only [step, start, if_pos hstart]
    exact keepsLoop_refl
  | call caller expects context moment method payload => exact call_keepsLoop
  | advance caller => exact advance_keepsLoop caller
  | write w => exact absurd rfl (hwrite w)
  | arrive incoming => exact absurd rfl (harrive incoming)
  | answer handler result => exact answer_keepsLoop handler result
  | handshakeTimeout waited =>
    have hstay : c.timeOutHandshake waited = (c, []) := by
      unfold timeOutHandshake
      cases hl : c.loop with
      | greeting => exact absurd hl hgreeting
      | greeted => exact absurd hl hgreeted
      | _ => rfl
    simp only [step, hstay]
    exact keepsLoop_refl
  | _ => cases hquiet

/-! ## What is written -/

/-- Only the receive loop writes control frames. -/
def SpeaksPlainly (c : Connection σ) : Prop :=
  ∀ x ∈ c.writers, x.2.purpose.isMessage = true → x.2.frame.kind ≠ .control

theorem speaksPlainly_step {e : Event} (h : c.SpeaksPlainly) : (c.step p e).1.SpeaksPlainly := by
  rcases writers_step (p := p) (c := c) e with ⟨hw, -⟩ | ⟨purpose, f, henlists, -, hw, -⟩
  · intro x hx
    rw [hw, waitingWriters] at hx
    split at hx
    · exact h x (List.mem_filter.mp hx).1
    · exact h x hx
  · intro x hx
    rw [hw] at hx
    rcases List.mem_append.mp hx with hx | hx
    · exact h x hx
    · rw [List.mem_singleton.mp hx]
      intro hmessage hkind
      cases henlists with
      | call hk hn hf =>
        rw [(callFrame_kind hf).1, Call.kind] at hkind
        split at hkind <;> cases hkind
      | answer hn hf =>
        have hanswer := (finalAnswer_isAnswer hf).1
        rw [hkind] at hanswer
        cases hanswer
      | turnDown hl hr hf => cases hmessage
      | notice he hf hp =>
        simp only [List.mem_cons, List.not_mem_nil, or_false] at hp
        rcases hp with rfl | rfl | rfl | rfl <;> cases hmessage

theorem speaksPlainly_run (s : σ) (es : List Event) : (run p (.new p s) es).1.SpeaksPlainly :=
  run_preserves (I := SpeaksPlainly) (fun _ _ => speaksPlainly_step)
    (fun _ hx => absurd hx List.not_mem_nil) es

theorem loopWriters_dropWriter (w : Nat) :
    (c.dropWriter w).loopWriters = c.loopWriters.filter (·.1 ≠ w) := by
  simp only [loopWriters, dropWriter, List.filter_filter]
  exact List.filter_congr fun x _ => Bool.and_comm _ _

theorem keepsLoop_dropWriter (hw : KeysBelow c.writers c.nextWriter) {w : Nat} {v : Writer}
    (hv : c.writers.lookup w = some v) (hpurpose : v.purpose.isMessage = true) :
    KeepsLoop c (c.dropWriter w) := by
  refine ⟨rfl, rfl, rfl, ?_⟩
  rw [loopWriters_dropWriter, List.filter_eq_self]
  intro x hx
  obtain ⟨hmem, hmessage⟩ := List.mem_filter.mp hx
  refine decide_eq_true fun he => ?_
  have hlookup := lookup_of_mem hw.nodup (k := x.1) (a := x.2) hmem
  rw [he, hv] at hlookup
  rw [← Option.some.inj hlookup, hpurpose] at hmessage
  cases hmessage

theorem resume_keepsLoop {result : Except TransportError Unit} {purpose : Purpose}
    (hpurpose : purpose.isMessage = true) : KeepsLoop c (c.resume p result purpose).1 := by
  cases purpose with
  | call caller n =>
    unfold resume
    simp only
    split
    · exact keepsLoop_refl
    · split
      · split
        · exact keepsLoop_refl.finish caller _
        · split
          · exact ⟨rfl, rfl, rfl, rfl⟩
          · exact keepsLoop_refl.finish caller _
      · exact keepsLoop_refl
  | answer => exact keepsLoop_refl
  | _ => cases hpurpose

theorem leave_stands (hphase : c.phase = .connected) (hwriters : c.loopWriters = []) :
    c.leave.1.Stands .ended := by
  have hover : ¬ c.phase.isOver = true := by
    rw [hphase]
    decide
  unfold leave teardown
  rw [if_neg hover]
  exact ⟨rfl, rfl, rfl, hwriters⟩

/-- A frame that is written is one of a call or a handler, or the one that the receive loop waits
for. -/
theorem write_stands {mode : Mode} (h : c.Stands mode) (hw : KeysBelow c.writers c.nextWriter)
    (hplain : c.SpeaksPlainly) (w : Nat) :
    ((c.write p w).1.Stands mode ∧ (c.writes (.write w)).filterMap Frame.complaint? = []) ∨
    (mode = .pausing ∧ (c.write p w).1.Stands .reading ∧
      (c.writes (.write w)).filterMap Frame.complaint? = []) ∨
    ∃ code details, mode = .violating code details ∧ (c.write p w).1.Stands .ended ∧
      (c.writes (.write w)).filterMap Frame.complaint? = [(code, details)] := by
  cases hv : c.writers.lookup w with
  | none =>
    left
    simp only [write, writes, hv]
    exact ⟨h, by split <;> rfl⟩
  | some v =>
    simp only [write, writes, hv]
    cases hpurpose : v.purpose.isMessage with
    | true =>
      left
      have hdrop := keepsLoop_dropWriter hw hv hpurpose
      have hquiet : v.frame.complaint? = none :=
        complaint?_of_ne_control (hplain _ (mem_of_lookup hv) hpurpose)
      split
      · exact ⟨h.keep (hdrop.trans (resume_keepsLoop hpurpose)), by split <;> simp [hquiet]⟩
      · exact ⟨h.keep (hdrop.trans (resume_keepsLoop hpurpose)), by split <;> simp [hquiet]⟩
    | false =>
      right
      have hmem : (w, v) ∈ c.loopWriters :=
        List.mem_filter.mpr ⟨mem_of_lookup hv, by simp [hpurpose]⟩
      have hdrop := loopWriters_dropWriter (c := c) w
      cases mode with
      | reading =>
        rw [h.2.2.2] at hmem
        cases hmem
      | ended =>
        rw [h.2.2.2] at hmem
        cases hmem
      | pausing =>
        obtain ⟨hphase, hshut, -, w', v', hone, hback, hsilent⟩ := h
        left
        rw [hone] at hmem
        cases List.mem_singleton.mp hmem
        rw [hone] at hdrop
        have hempty : (c.dropWriter w).loopWriters = [] := by rw [hdrop]; simp
        have hshut' : ¬ (c.dropWriter w).shut = true := by
          change ¬ c.shut = true
          simp [hshut]
        rw [if_neg hshut', if_neg (by simp [hshut])]
        refine ⟨rfl, ?_, by simp [hsilent]⟩
        rcases hback with hback | hback
        · rw [hback]
          exact ⟨hphase, hshut, rfl, hempty⟩
        · rw [hback]
          exact ⟨hphase, hshut, rfl, hempty⟩
      | violating code details =>
        obtain ⟨hphase, hshut, -, w', f, hone, hf⟩ := h
        right
        rw [hone] at hmem
        cases List.mem_singleton.mp hmem
        rw [hone] at hdrop
        have hempty : (c.dropWriter w).loopWriters = [] := by rw [hdrop]; simp
        have hshut' : ¬ (c.dropWriter w).shut = true := by
          change ¬ c.shut = true
          simp [hshut]
        rw [if_neg hshut', if_neg (by simp [hshut])]
        refine ⟨code, details, rfl, leave_stands hphase hempty, ?_⟩
        simp [complaint?_violation hf]

/-! ## What arrives -/

def Admits (p : Profile σ) (code : UInt32) (details : String) : Prop :=
  ∃ f bytes, noticeFrame (.violation code details) = .ok f ∧ f.write p.limit = .ok bytes

theorem say_of_ok {purpose : Purpose} {f : Frame} {bytes : Bytes}
    (hf : f.write p.limit = .ok bytes) (otherwise : Connection σ → Progress σ) :
    c.say p purpose (.ok f) otherwise = ({ c with
      writers := c.writers ++ [(c.nextWriter, ⟨purpose, f⟩)]
      nextWriter := c.nextWriter + 1
      loop := .paused }, []) := by
  simp only [say, enqueue, hf]

/-- The writer of a paused receive loop is the only one that it has to do with. -/
theorem loopWriters_concat {purpose : Purpose} {f : Frame} {after : Connection σ}
    (hnone : c.loopWriters = []) (hpurpose : purpose.isMessage = false)
    (hafter : after.writers = c.writers ++ [(c.nextWriter, ⟨purpose, f⟩)]) :
    after.loopWriters = [(c.nextWriter, ⟨purpose, f⟩)] := by
  unfold loopWriters at hnone ⊢
  rw [hafter, List.filter_append, hnone, List.nil_append]
  simp [hpurpose]

theorem violate_stands (h : c.Stands .reading) {code : UInt32} {details : String}
    (hadmits : Admits p code details) :
    (c.violate p code details).1.Stands (.violating code details) := by
  obtain ⟨hphase, hshut, -, hwriters⟩ := h
  obtain ⟨f, bytes, hf, hbytes⟩ := hadmits
  simp only [violate, hf, say_of_ok hbytes]
  exact ⟨hphase, hshut, rfl, c.nextWriter, f, loopWriters_concat hwriters rfl rfl, hf⟩

theorem resolve_stands {mode : Mode} (h : c.Stands mode) (n : UInt64) (reply : Reply) :
    (c.resolve n reply).Stands mode :=
  h.keep ⟨resolve_phase c reply n, resolve_shut c reply n, resolve_loop c reply n,
    by simp [loopWriters]⟩

/-- What a turned down request is answered with lets the receive loop read on in the end. -/
theorem turnDown_stands (h : c.Stands .reading) (n : UInt64) (fault : Fault) :
    (c.follow p (.turnDown n fault)).1.Stands .reading ∨
      (c.follow p (.turnDown n fault)).1.Stands .pausing := by
  obtain ⟨hphase, hshut, hloop, hwriters⟩ := h
  simp only [follow]
  split
  · rename_i f hf
    cases hw : f.write p.limit with
    | error e =>
      left
      simp only [say, enqueue, hw]
      exact ⟨hphase, hshut, hloop, hwriters⟩
    | ok bytes =>
      right
      rw [say_of_ok hw]
      have hanswer := (finalAnswer_isAnswer hf).1
      have hkind : f.kind ≠ .control := fun hk => by
        rw [hk] at hanswer
        cases hanswer
      exact ⟨hphase, hshut, rfl, c.nextWriter, ⟨.turnDown, f⟩, loopWriters_concat hwriters rfl rfl,
        Or.inr rfl, complaint?_of_ne_control hkind⟩
  · exact Or.inl ⟨hphase, hshut, hloop, hwriters⟩

theorem long_of_greetBack {f : Frame} {s : σ}
    (hf : (react p.side p.stack f s).1 = .greetBack) :
    ∃ part ∈ f.parts, 16 ≤ part.content.length := by
  rcases react_cases p.side p.stack f s with ⟨-, hr⟩ | ⟨-, hr⟩ | ⟨-, hr⟩
  · rw [hf] at hr
    cases hn : frameNotice f with
    | ok notice =>
      unfold frameNotice at hn
      split at hn
      · rename_i bytes hbytes
        obtain ⟨part, hpart, rfl⟩ := Option.map_eq_some_iff.mp hbytes
        exact ⟨part, List.mem_of_find?_eq_some hpart, Notice.length_of_ofBytes hn⟩
      · cases hn
    | error e =>
      rw [hn] at hr
      cases hr
  · rw [hf] at hr
    rcases reactToMessage_cases p.stack f s with ⟨e, hm, -⟩ | ⟨b, heading, -, -, hm⟩
    · rw [hm] at hr
      cases hr
    · rw [hm] at hr
      split at hr
      · split at hr <;> cases hr
      · split at hr <;> cases hr
  · rw [hf] at hr
    rcases reactToAnswer_cases p.stack f s with ⟨e, hm, -⟩ | ⟨b, result, -, -, hm⟩
    · rw [hm] at hr
      cases hr
    · rw [hm] at hr
      cases hr

/-- A greeting that came in shows that the limit lets one out. -/
theorem greeting_fits {f : Frame} {s : σ} (hf : (react p.side p.stack f s).1 = .greetBack)
    (hsize : f.bodySize ≤ p.limit) :
    ∃ g bytes, noticeFrame .greeting = .ok g ∧ g.complaint? = none ∧
      g.write p.limit = .ok bytes := by
  obtain ⟨part, hpart, hlong⟩ := long_of_greetBack hf
  have hmin := Frame.partSize_le_bodySize hpart
  simp only [Frame.headSize, Frame.partHeadSize] at hmin
  have hwf : (Frame.control (Archive.noticeBytes .greeting)).WellFormed := by decide
  have hbody : (Frame.control (Archive.noticeBytes .greeting)).bodySize = 33 := by decide
  refine ⟨.control (Archive.noticeBytes .greeting), _, rfl, by decide, Frame.write_eq_ok_iff.mpr
    ⟨hwf, ?_, ?_, rfl⟩⟩
  · omega
  · omega

theorem greetBack_stands (h : c.Stands .reading) {g : Frame} {bytes : Bytes}
    (hg : noticeFrame .greeting = .ok g) (hsilent : g.complaint? = none)
    (hbytes : g.write p.limit = .ok bytes) : (c.follow p .greetBack).1.Stands .pausing := by
  obtain ⟨hphase, hshut, -, hwriters⟩ := h
  simp only [follow, hg, say_of_ok hbytes]
  exact ⟨hphase, hshut, rfl, c.nextWriter, ⟨.greetingBack, g⟩, loopWriters_concat hwriters rfl rfl,
    Or.inl rfl, hsilent⟩

theorem accept_stands (h : c.Stands .reading) {f : Frame} (hsize : f.bodySize ≤ p.limit)
    (hadmits : ∀ code details, f.finale? p.side = some (.violation code details) →
      Admits p code details) :
    (∃ x, f.finale? p.side = some x ∧ (c.accept p f).1.Stands x.mode) ∨
    (f.finale? p.side = none ∧
      ((c.accept p f).1.Stands .reading ∨ (c.accept p f).1.Stands .pausing)) := by
  have hfinale := react_finale? p.stack f c.surroundings p.side
  have h' : ({ c with surroundings := (react p.side p.stack f c.surroundings).2 } :
      Connection σ).Stands .reading := h
  simp only [accept]
  cases hr : (react p.side p.stack f c.surroundings).1 with
  | readOn =>
    rw [hr] at hfinale
    exact Or.inr ⟨hfinale.symm, Or.inl h'⟩
  | greetBack =>
    rw [hr] at hfinale
    obtain ⟨g, bytes, hg, hsilent, hbytes⟩ := greeting_fits hr hsize
    exact Or.inr ⟨hfinale.symm, Or.inr (greetBack_stands h' hg hsilent hbytes)⟩
  | violation code details =>
    rw [hr] at hfinale
    exact Or.inl ⟨_, hfinale.symm, violate_stands h' (hadmits code details hfinale.symm)⟩
  | leave =>
    rw [hr] at hfinale
    exact Or.inl ⟨_, hfinale.symm, leave_stands h'.1 h'.2.2.2⟩
  | serve n d =>
    rw [hr] at hfinale
    exact Or.inr ⟨hfinale.symm, Or.inl h'⟩
  | notify d =>
    rw [hr] at hfinale
    exact Or.inr ⟨hfinale.symm, Or.inl h'⟩
  | turnDown n fault =>
    rw [hr] at hfinale
    exact Or.inr ⟨hfinale.symm, turnDown_stands h' n fault⟩
  | complete n reply =>
    rw [hr] at hfinale
    exact Or.inr ⟨hfinale.symm, Or.inl (resolve_stands h' n reply)⟩

/-- The last piece takes the receive loop to the end of the story, another lets it read on. -/
theorem arrive_stands (h : c.Stands .reading) {piece : Incoming}
    (hsize : ∀ f, piece = .frame f → f.bodySize ≤ p.limit)
    (hadmits : ∀ code details, piece.finale? p.side = some (.violation code details) →
      Admits p code details) :
    (∃ x, piece.finale? p.side = some x ∧ (c.arrive p piece).1.Stands x.mode) ∨
    (piece.finale? p.side = none ∧
      ((c.arrive p piece).1.Stands .reading ∨ (c.arrive p piece).1.Stands .pausing)) := by
  simp only [arrive, h.2.2.1]
  cases piece with
  | frame f => exact accept_stands h (hsize f rfl) hadmits
  | malformed e => exact Or.inl ⟨_, rfl, violate_stands h (hadmits _ _ rfl)⟩
  | broken fault => exact Or.inl ⟨_, rfl, leave_stands h.1 h.2.2.2⟩
  | ended => exact Or.inl ⟨_, rfl, leave_stands h.1 h.2.2.2⟩

end Connection

end Rpc
