import Mathlib.Data.List.Induction
import Mathlib.Data.List.TakeWhile
import Rpc.Proofs.Frame.ReadBack
import Rpc.Proofs.Notes
import Rpc.Proofs.Stream.Moves

/-! # Frames in turn

Whoever has the permit is the last that it was granted to, and what everybody has put on the wire
stands there in the order of the grants. A writer puts something only while all before it have put
their whole frames, so at most the last frame is cut.
-/
namespace Rpc

theorem Frame.ne_nil_of_write {limit : Nat} {f : Frame} {octets : Bytes}
    (h : f.write limit = .ok octets) : octets ≠ [] := by
  obtain ⟨-, -, -, rfl⟩ := write_eq_ok_iff.mp h
  rw [← List.length_pos_iff, length_bytes]
  omega

namespace Stream

namespace Writing

/-- What a writer that was granted the permit has put of its frame. -/
def Accounts (frame out : Bytes) : Writing → Prop
  | begun _ | waiting _ => False
  | holding left => left = frame ∧ out = []
  | putting left => out ++ left = frame
  | failing | failed => out <+: frame
  | written => out = frame
  | refused => out = []

variable {shut fails : Bool} {before after : Writing} {frame out : Bytes}

theorem Accounts.prefix (h : before.Accounts frame out) : out <+: frame := by
  cases before with
  | begun | waiting => exact h.elim
  | holding => exact h.2 ▸ List.nil_prefix
  | putting left => exact ⟨left, h⟩
  | failing | failed => exact h
  | written => exact h ▸ List.prefix_refl _
  | refused => exact h ▸ List.nil_prefix

theorem Passes.accounts (h : Passes shut fails before after) (ha : before.Accounts frame out) :
    after.Accounts frame out := by
  cases h with
  | refused | queued => exact ha.elim
  | turned => exact ha.2
  | cleared =>
    obtain ⟨rfl, rfl⟩ := ha
    rfl
  | flushed => exact (List.append_nil out).symm.trans ha
  | broke left => exact ⟨left, ha⟩
  | gaveUp => exact ha

end Writing

namespace Wire

def out (w : Wire) (writer : Nat) : Bytes :=
  (w.pieces.reverse.filter (·.1 = writer)).flatMap (·.2)

/-- Who has been granted the permit, in order, with its frame. -/
def granted (limit : Nat) (es : List Event) : List (Nat × Bytes) :=
  notes step grants (new limit) es

def hasWritten (w : Wire) (x : Nat × Bytes) : Bool := w.writers.lookup x.1 = some .written

/-- A writer joined with a frame that is encoded so. -/
def Sets (limit : Nat) (es : List Event) (writer : Nat) (octets : Bytes) : Prop :=
  ∃ front f back, es = front ++ .begin writer f :: back ∧
    (run (new limit) front).writers.lookup writer = none ∧ f.write limit = .ok octets

/-- The wire after some events, by those who have been granted the permit. -/
structure Orderly (limit : Nat) (es : List Event) (w : Wire) (turns : List (Nat × Bytes)) :
    Prop where
  limited : w.limit = limit
  pending : ∀ writer g frame, w.writers.lookup writer = some g → g.frame? = some frame →
    Sets limit es writer frame
  frames : ∀ x ∈ turns, Sets limit es x.1 x.2
  nodup : (turns.map Prod.fst).Nodup
  accounts : ∀ x ∈ turns, ∃ g, w.writers.lookup x.1 = some g ∧ g.Accounts x.2 (w.out x.1)
  silent : ∀ writer, writer ∉ turns.map Prod.fst → w.out writer = []
  bytes : w.bytes = turns.flatMap fun x => w.out x.1
  last : ∀ writer g, w.writers.lookup writer = some g → g.holds →
    ∃ front frame, turns = front ++ [(writer, frame)]
  written : ∀ writer, w.writers.lookup writer = some .written → writer ∈ turns.map Prod.fst
  /-- After a frame that is not whole nothing has been put. -/
  cut : turns.Pairwise fun x y => w.writers.lookup x.1 ≠ some .written → w.out y.1 = []
  refused : ∀ x ∈ turns, w.writers.lookup x.1 = some .refused → w.shut
  cleared : ∀ writer left, w.writers.lookup writer = some (.putting left) →
    ∀ x ∈ turns, w.writers.lookup x.1 ≠ some .refused
  failing : ∀ writer, w.writers.lookup writer = some .failing → w.broken
  failed : ∀ writer, w.writers.lookup writer = some .failed → w.broken
  /-- A writer that comes to put its frame after a failure has all of it left. -/
  idle : w.broken → ∀ writer left, w.writers.lookup writer = some (.putting left) → left ≠ []

variable {w : Wire} {writer task : Nat} {before after g : Writing} {es : List Event} {e : Event}
  {turns : List (Nat × Bytes)} {left frame octets : Bytes} {f : Frame} {count limit : Nat}

/-! ## One writer moves -/

/-- A writer comes from one stage to another, and the others stay where they are. -/
structure Shifts (w w' : Wire) (writer : Nat) (before after : Writing) : Prop where
  was : w.writers.lookup writer = some before
  now : w'.writers.lookup writer = some after
  others : ∀ t, t ≠ writer → w'.writers.lookup t = w.writers.lookup t

namespace Shifts

variable {w' : Wire}

theorem of_setWriter (hsame : w'.writers = w.writers)
    (hw : w.writers.lookup writer = some before) (after : Writing) :
    Shifts w (w'.setWriter writer after) writer before after := by
  have hlookup : ∀ t, (w'.setWriter writer after).writers.lookup t = _ :=
    lookup_setWriter (hsame ▸ hw)
  refine ⟨hw, (hlookup writer).trans (if_pos rfl), fun t ht => ?_⟩
  rw [hlookup, if_neg ht, hsame]

/-- What is known of the others at their stages, and of the one that has moved, is known of all. -/
theorem each {P : Nat → Writing → Prop} (h : Shifts w w' writer before after)
    (hafter : P writer after)
    (hothers : ∀ t g, t ≠ writer → w.writers.lookup t = some g → P t g) (t : Nat) (g : Writing)
    (ht : w'.writers.lookup t = some g) : P t g := by
  by_cases heq : t = writer
  · subst heq
    cases h.now.symm.trans ht
    exact hafter
  · exact hothers t g heq ((h.others t heq).symm.trans ht)

/-- A writer at another stage than the new one has been there before. -/
theorem stays (h : Shifts w w' writer before after) {t : Nat}
    (ht : w'.writers.lookup t = some g) (hg : g ≠ after) : w.writers.lookup t = some g :=
  h.each (P := fun t g => g ≠ after → w.writers.lookup t = some g) (fun hne => absurd rfl hne)
    (fun _ _ _ ht _ => ht) t g ht hg

end Shifts

/-! ## One step -/

theorem Sets.concat (h : Sets limit es writer octets) (e : Event) :
    Sets limit (es ++ [e]) writer octets := by
  obtain ⟨front, f, back, rfl, hnew, hf⟩ := h
  exact ⟨front, f, back ++ [e], by simp, hnew, hf⟩

namespace Orderly

theorem unique (h : Orderly limit es w turns) {writer' : Nat} {g' : Writing}
    (hw : w.writers.lookup writer = some g) (hg : g.holds)
    (hw' : w.writers.lookup writer' = some g') (hg' : g'.holds) : writer' = writer := by
  obtain ⟨front, frame, hlast⟩ := h.last writer g hw hg
  obtain ⟨front', frame', hlast'⟩ := h.last writer' g' hw' hg'
  have hsame := List.append_inj_right' (hlast'.symm.trans hlast) rfl
  exact congrArg Prod.fst (List.singleton_inj.mp hsame)

theorem later (h : Orderly limit es w turns) (e : Event) : Orderly limit (es ++ [e]) w turns :=
  { h with
    pending := fun writer g frame hw hf => (h.pending writer g frame hw hf).concat e
    frames := fun x hx => (h.frames x hx).concat e }

/-- Shutdowns do not concern those who write, except that the flag may go up. -/
theorem shutters {w' : Wire} (h : Orderly limit es w turns) (hlimit : w'.limit = w.limit)
    (hpieces : w'.pieces = w.pieces) (hwriters : w'.writers = w.writers)
    (hbroken : w'.broken = w.broken) (hshut : w.shut → w'.shut) :
    Orderly limit es w' turns := by
  have hout : w'.out = w.out := by
    unfold out
    rw [hpieces]
  have hbytes : w'.bytes = w.bytes := by
    unfold Wire.bytes
    rw [hpieces]
  constructor
  · exact hlimit.trans h.limited
  · rw [hwriters]
    exact h.pending
  · exact h.frames
  · exact h.nodup
  · rw [hwriters, hout]
    exact h.accounts
  · rw [hout]
    exact h.silent
  · rw [hbytes, hout]
    exact h.bytes
  · rw [hwriters]
    exact h.last
  · rw [hwriters]
    exact h.written
  · rw [hwriters, hout]
    exact h.cut
  · rw [hwriters]
    exact fun x hx hrefused => hshut (h.refused x hx hrefused)
  · rw [hwriters]
    exact h.cleared
  · rw [hwriters, hbroken]
    exact h.failing
  · rw [hwriters, hbroken]
    exact h.failed
  · rw [hwriters, hbroken]
    exact h.idle

theorem joined (h : Orderly limit es w turns) (hnew : w.writers.lookup writer = none)
    (hg : g = .refused ∨ ∃ octets, Sets limit es writer octets ∧ g = .begun octets) :
    Orderly limit es { w with writers := w.writers ++ [(writer, g)] } turns := by
  have hlookup : ∀ t, (w.writers ++ [(writer, g)]).lookup t =
      if t = writer then some g else w.writers.lookup t := by
    intro t
    rw [lookup_concat]
    by_cases ht : t = writer
    · rw [if_pos ht, ht, hnew, if_pos rfl]
      rfl
    · rw [if_neg ht, if_neg ht, Option.or_none]
  have hne : ∀ x ∈ turns, x.1 ≠ writer := by
    intro x hx heq
    obtain ⟨g', hg', -⟩ := h.accounts x hx
    rw [heq, hnew] at hg'
    cases hg'
  have hother : ∀ x ∈ turns, (w.writers ++ [(writer, g)]).lookup x.1 = w.writers.lookup x.1 :=
    fun x hx => (hlookup x.1).trans (if_neg (hne x hx))
  -- a writer at any other stage is an old one
  have hold : ∀ t g', (w.writers ++ [(writer, g)]).lookup t = some g' → g' ≠ .refused →
      (∀ octets, g' ≠ .begun octets) → w.writers.lookup t = some g' := by
    intro t g' ht hrefused hbegun
    rw [hlookup] at ht
    split at ht
    · cases ht
      obtain rfl | ⟨octets, -, rfl⟩ := hg
      · exact absurd rfl hrefused
      · exact absurd rfl (hbegun octets)
    · exact ht
  constructor
  · exact h.limited
  · intro t g' frame ht hframe
    dsimp only at ht
    rw [hlookup] at ht
    split at ht
    · rename_i heq
      subst heq
      cases ht
      obtain rfl | ⟨octets, hsets, rfl⟩ := hg
      · cases hframe
      · cases hframe
        exact hsets
    · exact h.pending t g' frame ht hframe
  · exact h.frames
  · exact h.nodup
  · intro x hx
    dsimp only
    rw [hother x hx]
    exact h.accounts x hx
  · exact h.silent
  · exact h.bytes
  · exact fun t g' ht hholds => h.last t g' (hold t g' ht (by rintro rfl; cases hholds)
      (by rintro octets rfl; cases hholds)) hholds
  · exact fun t ht => h.written t (hold t _ ht nofun nofun)
  · refine h.cut.imp_of_mem fun {x y} hx _ hxy hwritten => hxy ?_
    rwa [← hother x hx]
  · exact fun x hx hrefused => h.refused x hx ((hother x hx).symm.trans hrefused)
  · intro t left ht x hx
    dsimp only
    rw [hother x hx]
    exact h.cleared t left (hold t _ ht nofun nofun) x hx
  · exact fun t ht => h.failing t (hold t _ ht nofun nofun)
  · exact fun t ht => h.failed t (hold t _ ht nofun nofun)
  · exact fun hbroken t left ht => h.idle hbroken t left (hold t _ ht nofun nofun)

section Shift

variable {w' : Wire} (h : Orderly limit es w turns) (hs : Shifts w w' writer before after)

include h hs

theorem pending_of_shift (hframe : ∀ frame, after.frame? = some frame → before.frame? = some frame)
    (t : Nat) (g : Writing) (frame : Bytes) (ht : w'.writers.lookup t = some g)
    (hg : g.frame? = some frame) : Sets limit es t frame :=
  hs.each (P := fun t g => g.frame? = some frame → Sets limit es t frame)
    (fun hf => h.pending writer before frame hs.was (hframe frame hf))
    (fun t g _ ht hf => h.pending t g frame ht hf) t g ht hg

theorem accounts_of_shift (hout : ∀ t, t ≠ writer → w'.out t = w.out t)
    (hself : ∀ frame, before.Accounts frame (w.out writer) → after.Accounts frame (w'.out writer)) :
    ∀ x ∈ turns, ∃ g, w'.writers.lookup x.1 = some g ∧ g.Accounts x.2 (w'.out x.1) := by
  intro x hx
  obtain ⟨g, hg, haccounts⟩ := h.accounts x hx
  by_cases heq : x.1 = writer
  · rw [heq] at hg haccounts ⊢
    cases hs.was.symm.trans hg
    exact ⟨after, hs.now, hself x.2 haccounts⟩
  · exact ⟨g, (hs.others x.1 heq).trans hg, (hout x.1 heq).symm ▸ haccounts⟩

theorem last_of_shift (hholds : after.holds → before.holds) (t : Nat) (g : Writing)
    (ht : w'.writers.lookup t = some g) (hg : g.holds) :
    ∃ front frame, turns = front ++ [(t, frame)] :=
  hs.each (P := fun t g => g.holds → ∃ front frame, turns = front ++ [(t, frame)])
    (fun hg => h.last writer before hs.was (hholds hg)) (fun t g _ ht hg => h.last t g ht hg)
    t g ht hg

theorem refused_of_shift (hshut : w.shut → w'.shut) (hafter : after = .refused → w'.shut) :
    ∀ x ∈ turns, w'.writers.lookup x.1 = some .refused → w'.shut := by
  intro x hx ht
  by_cases heq : x.1 = writer
  · rw [heq] at ht
    exact hafter (Option.some.inj (hs.now.symm.trans ht))
  · exact hshut (h.refused x hx ((hs.others x.1 heq).symm.trans ht))

/-- A frame that was not written is not written now, and nothing has been put behind it. -/
theorem cut_of_shift (hbefore : before ≠ .written) (hout : w'.out = w.out) :
    turns.Pairwise fun x y => w'.writers.lookup x.1 ≠ some .written → w'.out y.1 = [] := by
  rw [hout]
  refine h.cut.imp fun {x y} hxy hunwritten => hxy fun hx => hunwritten ?_
  have hne : x.1 ≠ writer := by
    intro heq
    rw [heq] at hx
    exact hbefore (Option.some.inj (hs.was.symm.trans hx))
  exact (hs.others x.1 hne).trans hx

end Shift

section Pass

variable {fails : Bool} {w' : Wire} (h : Orderly limit es w turns)
  (hs : Shifts w w' writer before after) (hpass : before.Passes w.shut fails after)

include h hs hpass

theorem written_of_pass (t : Nat) (ht : w'.writers.lookup t = some .written) :
    t ∈ turns.map Prod.fst := by
  refine hs.each (P := fun t g => g = .written → t ∈ turns.map Prod.fst) ?_ ?_ t _ ht rfl
  · rintro rfl
    obtain ⟨front, frame, rfl⟩ := h.last writer before hs.was hpass.holds_of_written
    simp
  · rintro t _ - ht rfl
    exact h.written t ht

/-- A writer that comes to put its frame found the stream open, so nobody has been refused; and one
that is refused while another puts has had no turn. -/
theorem cleared_of_pass (t : Nat) (left : Bytes) (ht : w'.writers.lookup t = some (.putting left)) :
    ∀ x ∈ turns, w'.writers.lookup x.1 ≠ some .refused := by
  intro x hx hrefused
  by_cases heq : t = writer
  · subst heq
    cases hs.now.symm.trans ht
    have hshut := h.refused x hx (hs.stays hrefused nofun)
    rw [(hpass.cleared_of_putting).1] at hshut
    cases hshut
  · have hputting := (hs.others t heq).symm.trans ht
    by_cases hxw : x.1 = writer
    · rw [hxw] at hrefused
      cases hs.now.symm.trans hrefused
      obtain ⟨g, hg, haccounts⟩ := h.accounts x hx
      rw [hxw] at hg
      cases hs.was.symm.trans hg
      cases hpass with
      | refused => exact haccounts
      | turned => exact heq (h.unique hs.was rfl hputting rfl)
    · exact h.cleared t left hputting x hx ((hs.others x.1 hxw).symm.trans hrefused)

theorem failing_of_pass (t : Nat) (ht : w'.writers.lookup t = some .failing) :
    (w.broken || fails) = true := by
  refine hs.each (P := fun _ g => g = .failing → (w.broken || fails) = true) ?_ ?_ t _ ht rfl
  · rintro rfl
    rw [hpass.of_failing, Bool.or_true]
  · rintro t _ - ht rfl
    rw [h.failing t ht, Bool.true_or]

theorem failed_of_pass (t : Nat) (ht : w'.writers.lookup t = some .failed) :
    (w.broken || fails) = true := by
  refine hs.each (P := fun _ g => g = .failed → (w.broken || fails) = true) ?_ ?_ t _ ht rfl
  · rintro rfl
    cases hpass.of_failed
    rw [h.failing writer hs.was, Bool.true_or]
  · rintro t _ - ht rfl
    rw [h.failed t ht, Bool.true_or]

theorem idle_of_pass (hbroken : (w.broken || fails) = true) (t : Nat) (left : Bytes)
    (ht : w'.writers.lookup t = some (.putting left)) : left ≠ [] := by
  by_cases heq : t = writer
  · subst heq
    cases hs.now.symm.trans ht
    obtain ⟨-, rfl⟩ := hpass.cleared_of_putting
    obtain ⟨_, _, _, -, -, hf⟩ := h.pending t _ left hs.was rfl
    exact Frame.ne_nil_of_write hf
  · have hputting := (hs.others t heq).symm.trans ht
    cases hfails : fails with
    | false =>
      rw [hfails, Bool.or_false] at hbroken
      exact h.idle hbroken t left hputting
    | true =>
      subst hfails
      exact absurd (h.unique hs.was hpass.of_fails.1 hputting rfl) heq

end Pass

/-- A writer that goes on, taking no permit and putting nothing, leaves the turns as they are. -/
theorem passed {fails : Bool} (h : Orderly limit es w turns)
    (hw : w.writers.lookup writer = some before) (hpass : before.Passes w.shut fails after) :
    Orderly limit es ({ w with broken := w.broken || fails }.setWriter writer after) turns :=
  have hs : Shifts w ({ w with broken := w.broken || fails }.setWriter writer after) writer before
      after := .of_setWriter (by rfl) hw after
  { limited := h.limited
    pending := h.pending_of_shift hs fun _ => hpass.pending
    frames := h.frames
    nodup := h.nodup
    accounts := h.accounts_of_shift hs (fun _ _ => rfl) fun _ => hpass.accounts
    silent := h.silent
    bytes := h.bytes
    last := h.last_of_shift hs hpass.holds
    written := h.written_of_pass hs hpass
    cut := h.cut_of_shift hs hpass.unwritten rfl
    refused := h.refused_of_shift hs id fun hafter => (hafter ▸ hpass).shut_of_refused
    cleared := h.cleared_of_pass hs hpass
    failing := h.failing_of_pass hs hpass
    failed := h.failed_of_pass hs hpass
    idle := h.idle_of_pass hs hpass }

theorem not_mem_of_waiting (h : Orderly limit es w turns)
    (hw : w.writers.lookup writer = some (.waiting frame)) : writer ∉ turns.map Prod.fst := by
  intro hmem
  obtain ⟨x, hx, rfl⟩ := List.mem_map.mp hmem
  obtain ⟨g, hg, haccounts⟩ := h.accounts x hx
  cases hw.symm.trans hg
  exact haccounts

section Grant

variable {w' : Wire} (h : Orderly limit es w turns)
  (hs : Shifts w w' writer (.waiting frame) (.holding frame))

include h hs

theorem nodup_of_grant : ((turns ++ [(writer, frame)]).map Prod.fst).Nodup := by
  rw [List.map_append, List.nodup_append]
  refine ⟨h.nodup, List.pairwise_singleton _ _, ?_⟩
  rintro t ht _ hsingle rfl
  cases List.mem_singleton.mp hsingle
  exact h.not_mem_of_waiting hs.was ht

theorem accounts_of_grant (hout : w'.out = w.out) : ∀ x ∈ turns ++ [(writer, frame)],
    ∃ g, w'.writers.lookup x.1 = some g ∧ g.Accounts x.2 (w'.out x.1) := by
  intro x hx
  rcases List.mem_append.mp hx with hx | hx
  · exact h.accounts_of_shift hs (fun _ _ => congrFun hout _) (fun _ => False.elim) x hx
  · cases List.mem_singleton.mp hx
    refine ⟨_, hs.now, rfl, ?_⟩
    rw [hout]
    exact h.silent writer (h.not_mem_of_waiting hs.was)

theorem cut_of_grant (hout : w'.out = w.out) : (turns ++ [(writer, frame)]).Pairwise fun x y =>
    w'.writers.lookup x.1 ≠ some .written → w'.out y.1 = [] := by
  rw [List.pairwise_append]
  refine ⟨h.cut_of_shift hs nofun hout, List.pairwise_singleton _ _, ?_⟩
  intro x _ y hy _
  cases List.mem_singleton.mp hy
  rw [hout]
  exact h.silent writer (h.not_mem_of_waiting hs.was)

end Grant

/-- The permit is granted to somebody who has put nothing, while nobody has it. -/
theorem granted (h : Orderly limit es w turns)
    (hw : w.writers.lookup writer = some (.waiting frame)) (hfree : w.isFree) :
    Orderly limit es (w.setWriter writer (.holding frame)) (turns ++ [(writer, frame)]) := by
  have hs : Shifts w (w.setWriter writer (.holding frame)) writer (.waiting frame)
    (.holding frame) := .of_setWriter rfl hw _
  have hsilent := h.silent writer (h.not_mem_of_waiting hw)
  constructor
  · exact h.limited
  · exact h.pending_of_shift hs fun _ => id
  · intro x hx
    rcases List.mem_append.mp hx with hx | hx
    · exact h.frames x hx
    · cases List.mem_singleton.mp hx
      exact h.pending writer _ frame hw rfl
  · exact h.nodup_of_grant hs
  · exact h.accounts_of_grant hs rfl
  · intro t ht
    rw [List.map_append, List.mem_append] at ht
    exact h.silent t fun hmem => ht (Or.inl hmem)
  · rw [List.flatMap_append, List.flatMap_singleton]
    have hlast : (w.setWriter writer (.holding frame)).out writer = [] := hsilent
    rw [hlast, List.append_nil]
    exact h.bytes
  · -- nobody else has the permit
    refine hs.each (fun _ => ⟨turns, frame, rfl⟩) fun t g _ ht hholds => ?_
    rw [holds_of_isFree hfree ht] at hholds
    cases hholds
  · intro t ht
    rw [List.map_append, List.mem_append]
    exact Or.inl (h.written t (hs.stays ht nofun))
  · exact h.cut_of_grant hs rfl
  · intro x hx ht
    rcases List.mem_append.mp hx with hx | hx
    · exact h.refused x hx (hs.stays ht nofun)
    · cases List.mem_singleton.mp hx
      cases hs.now.symm.trans ht
  · intro t left ht
    cases holds_of_isFree hfree (hs.stays ht nofun)
  · exact fun t ht => h.failing t (hs.stays ht nofun)
  · exact fun t ht => h.failed t (hs.stays ht nofun)
  · exact fun hbroken t left ht => h.idle hbroken t left (hs.stays ht nofun)

/-- While one puts, all before it have put their frames. -/
theorem written_of_putting (h : Orderly limit es w turns) (hbroken : w.broken = false)
    (hw : w.writers.lookup writer = some (.putting left)) {x : Nat × Bytes} (hx : x ∈ turns)
    (hne : x.1 ≠ writer) : w.writers.lookup x.1 = some .written := by
  obtain ⟨g, hg, haccounts⟩ := h.accounts x hx
  cases g with
  | begun | waiting => exact haccounts.elim
  | holding | putting => exact absurd (h.unique hw rfl hg rfl) hne
  | failing =>
    have hfail := h.failing _ hg
    rw [hbroken] at hfail
    cases hfail
  | failed =>
    have hfail := h.failed _ hg
    rw [hbroken] at hfail
    cases hfail
  | refused => exact absurd hg (h.cleared writer left hw x hx)
  | written => exact hg

end Orderly

/-- A writer puts a piece of what it had left. -/
structure PutsPiece (w w' : Wire) (writer : Nat) (piece left : Bytes) : Prop
    extends Shifts w w' writer (.putting (piece ++ left)) (.putting left) where
  self : w'.out writer = w.out writer ++ piece
  silent : ∀ t, t ≠ writer → w'.out t = w.out t
  bytes : w'.bytes = w.bytes ++ piece

theorem putsPiece_put (hw : w.writers.lookup writer = some (.putting left)) (count : Nat) :
    PutsPiece w ({ w with pieces := (writer, left.take count) :: w.pieces }.setWriter writer
      (.putting (left.drop count))) writer (left.take count) (left.drop count) where
  toShifts := by
    rw [List.take_append_drop]
    exact .of_setWriter (by rfl) hw _
  self := by simp [out, setWriter]
  silent t ht := by simp [out, setWriter, Ne.symm ht]
  bytes := by simp [Wire.bytes, setWriter]

namespace Orderly

section Put

variable {w' : Wire} {piece : Bytes} {front : List (Nat × Bytes)}

theorem ne_of_mem_front (h : Orderly limit es w (front ++ [(writer, frame)])) {x : Nat × Bytes}
    (hx : x ∈ front) : x.1 ≠ writer := by
  intro heq
  have hnodup := h.nodup
  rw [List.map_append, List.nodup_append] at hnodup
  exact hnodup.2.2 x.1 (List.mem_map_of_mem hx) writer (by simp) heq

variable (h : Orderly limit es w turns) (hp : PutsPiece w w' writer piece left)

include h hp

theorem accounts_of_put :
    ∀ x ∈ turns, ∃ g, w'.writers.lookup x.1 = some g ∧ g.Accounts x.2 (w'.out x.1) := by
  refine h.accounts_of_shift hp.toShifts hp.silent fun frame haccounts => ?_
  rw [hp.self]
  exact (List.append_assoc _ _ _).trans haccounts

theorem silent_of_put (t : Nat) (ht : t ∉ turns.map Prod.fst) : w'.out t = [] := by
  obtain ⟨front, frame, rfl⟩ := h.last writer _ hp.was rfl
  have hne : t ≠ writer := by
    rintro rfl
    simp at ht
  rw [hp.silent t hne]
  exact h.silent t ht

/-- The piece goes to the end of the wire, where the frame of its writer stands. -/
theorem bytes_of_put : w'.bytes = turns.flatMap fun x => w'.out x.1 := by
  obtain ⟨front, frame, rfl⟩ := h.last writer _ hp.was rfl
  have hsame : front.flatMap (fun x => w'.out x.1) = front.flatMap fun x => w.out x.1 :=
    List.flatMap_congr fun x hx => hp.silent x.1 (h.ne_of_mem_front hx)
  rw [hp.bytes, h.bytes, List.flatMap_append, List.flatMap_append, List.flatMap_singleton,
    List.flatMap_singleton, hsame, hp.self, List.append_assoc]

/-- If the socket has not failed, all frames before the one that is put are whole. -/
theorem cut_of_put (hbroken : piece ≠ [] → w.broken = false) : turns.Pairwise fun x y =>
    w'.writers.lookup x.1 ≠ some .written → w'.out y.1 = [] := by
  obtain ⟨front, frame, rfl⟩ := h.last writer _ hp.was rfl
  have hcut := h.cut
  rw [List.pairwise_append] at hcut ⊢
  have hunwritten : ∀ x ∈ front, w'.writers.lookup x.1 ≠ some .written →
      w.writers.lookup x.1 ≠ some .written := fun x hx hne hdone =>
    hne ((hp.others x.1 (h.ne_of_mem_front hx)).trans hdone)
  refine ⟨hcut.1.imp_of_mem fun {x y} hx hy hxy hne => ?_, List.pairwise_singleton _ _, ?_⟩
  · rw [hp.silent y.1 (h.ne_of_mem_front hy)]
    exact hxy (hunwritten x hx hne)
  · intro x hx y hy hne
    by_cases hnone : piece = []
    · have hout := hcut.2.2 x hx y hy (hunwritten x hx hne)
      cases List.mem_singleton.mp hy
      rw [hp.self, hnone, List.append_nil]
      exact hout
    · have hdone := h.written_of_putting (hbroken hnone) hp.was (List.mem_append_left _ hx)
        (h.ne_of_mem_front hx)
      exact absurd hdone (hunwritten x hx hne)

theorem idle_of_put (hopen : piece ≠ [] → w.broken = false) (hbroken : w.broken) (t : Nat)
    (left' : Bytes) (ht : w'.writers.lookup t = some (.putting left')) : left' ≠ [] := by
  by_cases hnone : piece = []
  · by_cases heq : t = writer
    · subst heq
      cases hp.now.symm.trans ht
      have hidle := h.idle hbroken t _ hp.was
      rwa [hnone, List.nil_append] at hidle
    · exact h.idle hbroken t left' ((hp.others t heq).symm.trans ht)
  · rw [hopen hnone] at hbroken
    cases hbroken

end Put

/-- What is put goes to the end of the wire and of the frame that is there. After a failure nothing
may be put, but somebody may put no octets at all. -/
theorem put (h : Orderly limit es w turns) (hw : w.writers.lookup writer = some (.putting left))
    (count : Nat) (hbroken : left.take count ≠ [] → w.broken = false) :
    Orderly limit es ({ w with pieces := (writer, left.take count) :: w.pieces }.setWriter writer
      (.putting (left.drop count))) turns :=
  have hp := putsPiece_put hw count
  { limited := h.limited
    pending := h.pending_of_shift hp.toShifts fun _ => nofun
    frames := h.frames
    nodup := h.nodup
    accounts := h.accounts_of_put hp
    silent := h.silent_of_put hp
    bytes := h.bytes_of_put hp
    last := h.last_of_shift hp.toShifts fun _ => rfl
    written := fun t ht => h.written t (hp.stays ht nofun)
    cut := h.cut_of_put hp hbroken
    refused := h.refused_of_shift hp.toShifts id nofun
    cleared := fun _ _ _ x hx hrefused =>
      h.cleared writer left hw x hx (hp.stays hrefused nofun)
    failing := fun t ht => h.failing t (hp.stays ht nofun)
    failed := fun t ht => h.failed t (hp.stays ht nofun)
    idle := h.idle_of_put hp hbroken }

theorem beginShut (h : Orderly limit es w turns) (task : Nat) :
    Orderly limit es (w.beginShut task) turns := by
  unfold Wire.beginShut
  split
  · exact h
  · exact h.shutters rfl rfl rfl rfl id

end Orderly

theorem orderly_step {grants : List (Nat × Bytes)} {w' : Wire}
    (h : Orderly limit es (run (new limit) es) turns)
    (hmoves : Moves (run (new limit) es) e grants w')
    (hput : ∀ writer count left, e = .put writer count →
      (run (new limit) es).writers.lookup writer = some (.putting left) →
      (run (new limit) es).closed = false → left.take count ≠ [] →
      (run (new limit) es).broken = false) :
    Orderly limit (es ++ [e]) w' (turns ++ grants) := by
  have hlater := h.later e
  cases hmoves with
  | stays => exact (List.append_nil turns).symm ▸ hlater
  | @joined writer f g hnew hg =>
    rw [List.append_nil]
    refine hlater.joined hnew (hg.imp id fun ⟨octets, hf, heq⟩ => ⟨octets, ?_, heq⟩)
    exact ⟨es, f, [], rfl, hnew, h.limited ▸ hf⟩
  | passed hw hpass => exact (List.append_nil turns).symm ▸ hlater.passed hw hpass
  | gaveUp hw =>
    have hpassed := hlater.passed hw .gaveUp
    rw [Bool.or_false] at hpassed
    exact (List.append_nil turns).symm ▸ hpassed.beginShut _
  | granted hw hfree => exact hlater.granted hw hfree
  | put hw hopen =>
    exact (List.append_nil turns).symm ▸ hlater.put hw _ (hput _ _ _ rfl hw hopen)
  | shutBegun hnew => exact (List.append_nil turns).symm ▸ hlater.shutters rfl rfl rfl rfl id
  | shutMoved hs hshuts =>
    exact (List.append_nil turns).symm ▸ hlater.shutters rfl rfl rfl rfl hshuts.stillShut

/-! ## All steps -/

theorem run_concat (es : List Event) (e : Event) : w.run (es ++ [e]) = (w.run es).step e := by
  unfold run
  rw [List.foldl_append]
  rfl

theorem failsForGood_concat : w.FailsForGood (es ++ [e]) ↔
    w.FailsForGood es ∧ (e.isPut → (w.run es).broken = false) := by
  induction es generalizing w with
  | nil => exact and_comm
  | cons e' es ih =>
    rw [List.cons_append, FailsForGood, FailsForGood, ih, and_assoc]
    rfl

theorem orderly_run (h : FailsForGood (new limit) es) :
    Orderly limit es (run (new limit) es) (granted limit es) := by
  induction es using List.reverseRecOn with
  | nil =>
    constructor
    · rfl
    · nofun
    · nofun
    · exact List.nodup_nil
    · nofun
    · exact fun _ _ => rfl
    · rfl
    · nofun
    · nofun
    · exact List.Pairwise.nil
    · nofun
    · nofun
    · nofun
    · nofun
    · nofun
  | append_singleton es e ih =>
    obtain ⟨hes, he⟩ := failsForGood_concat.mp h
    rw [run_concat, granted, notes_concat]
    exact orderly_step (ih hes) (moves_step _ e) fun _ _ _ hevent _ _ _ => he (hevent ▸ rfl)

/-! ## What is on the wire -/

/-- Frames stand on the wire one after the other. -/
structure InTurns (limit : Nat) (es : List Event) : Prop where
  /-- The permit is granted to each writer once, for the frame with which it joined. -/
  frames : ∀ x ∈ granted limit es, Sets limit es x.1 x.2
  nodup : ((granted limit es).map Prod.fst).Nodup
  /-- The whole frames are those of the writers that are done; one more may be there in part. -/
  bytes : ∃ whole cut idle part, granted limit es = whole ++ cut ++ idle ∧ cut.length ≤ 1 ∧
    (run (new limit) es).bytes = whole.flatMap Prod.snd ++ part ∧ part <+: cut.flatMap Prod.snd ∧
    ∀ writer, (run (new limit) es).writers.lookup writer = some .written ↔
      writer ∈ whole.map Prod.fst
  final : (run (new limit) es).Closes → ∀ more,
    (run (new limit) (es ++ more)).bytes = (run (new limit) es).bytes

theorem Sets.ne_nil (h : Sets limit es writer octets) : octets ≠ [] := by
  obtain ⟨_, _, _, -, -, hf⟩ := h
  exact Frame.ne_nil_of_write hf

namespace Orderly

theorem out_of_written (h : Orderly limit es w turns) {x : Nat × Bytes} (hx : x ∈ turns)
    (hw : w.writers.lookup x.1 = some .written) : w.out x.1 = x.2 := by
  obtain ⟨g, hg, haccounts⟩ := h.accounts x hx
  cases hw.symm.trans hg
  exact haccounts

/-- The turns in front of the first one that is not whole, this one, and those after it. -/
theorem wire (h : Orderly limit es w turns) :
    ∃ whole cut idle part, turns = whole ++ cut ++ idle ∧ cut.length ≤ 1 ∧
      w.bytes = whole.flatMap Prod.snd ++ part ∧ part <+: cut.flatMap Prod.snd ∧
      ∀ writer, w.writers.lookup writer = some .written ↔ writer ∈ whole.map Prod.fst := by
  have hsplit : turns.takeWhile w.hasWritten ++ turns.dropWhile w.hasWritten = turns :=
    List.takeWhile_append_dropWhile
  have hdone : ∀ x ∈ turns.takeWhile w.hasWritten, w.writers.lookup x.1 = some .written :=
    fun x hx => of_decide_eq_true (List.mem_takeWhile_imp (p := w.hasWritten) hx)
  have hwhole : ((turns.takeWhile w.hasWritten).flatMap fun x => w.out x.1) =
      (turns.takeWhile w.hasWritten).flatMap Prod.snd :=
    List.flatMap_congr fun x hx =>
      h.out_of_written ((List.takeWhile_sublist w.hasWritten).subset hx) (hdone x hx)
  have hwritten : ∀ writer, writer ∈ (turns.takeWhile w.hasWritten).map Prod.fst →
      w.writers.lookup writer = some .written := by
    intro writer hmem
    obtain ⟨x, hx, rfl⟩ := List.mem_map.mp hmem
    exact hdone x hx
  have hfirst := List.head?_dropWhile_not w.hasWritten turns
  cases hrest : turns.dropWhile w.hasWritten with
  | nil =>
    rw [hrest, List.append_nil] at hsplit
    refine ⟨turns.takeWhile w.hasWritten, [], [], [], by simp [hsplit], Nat.zero_le 1, ?_,
      List.nil_prefix, fun writer => ⟨fun hw => ?_, hwritten writer⟩⟩
    · rw [List.append_nil, ← hwhole, hsplit]
      exact h.bytes
    · rw [hsplit]
      exact h.written writer hw
  | cons x idle =>
    rw [hrest] at hsplit hfirst
    have hx : w.writers.lookup x.1 ≠ some .written := of_decide_eq_false hfirst
    have hmem : ∀ y ∈ x :: idle, y ∈ turns := fun y hy =>
      hsplit ▸ List.mem_append_right _ hy
    have hidle : ∀ y ∈ idle, w.out y.1 = [] := by
      have hcut := h.cut
      rw [← hsplit, List.pairwise_append, List.pairwise_cons] at hcut
      exact fun y hy => hcut.2.1.1 y hy hx
    have hnone : (idle.flatMap fun y => w.out y.1) = [] := List.flatMap_eq_nil_iff.mpr hidle
    obtain ⟨g, -, haccounts⟩ := h.accounts x (hmem x List.mem_cons_self)
    refine ⟨turns.takeWhile w.hasWritten, [x], idle, w.out x.1, ?_, Nat.le_refl 1, ?_, ?_,
      fun writer => ⟨fun hw => ?_, hwritten writer⟩⟩
    · rw [List.append_assoc]
      exact hsplit.symm
    · have hbytes := congrArg (List.flatMap fun y : Nat × Bytes => w.out y.1) hsplit
      rw [List.flatMap_append, List.flatMap_cons, hwhole, hnone, List.append_nil] at hbytes
      exact h.bytes.trans hbytes.symm
    · rw [List.flatMap_singleton]
      exact haccounts.prefix
    · have hturn := h.written writer hw
      rw [← hsplit, List.map_append, List.mem_append] at hturn
      refine hturn.resolve_right fun hlater => ?_
      obtain ⟨y, hy, rfl⟩ := List.mem_map.mp hlater
      rcases List.mem_cons.mp hy with rfl | hback
      · exact hx hw
      · -- a whole frame is not empty, and nothing has been put since
        have hout := h.out_of_written (hmem y hy) hw
        rw [hidle y hback] at hout
        exact (h.frames y (hmem y hy)).ne_nil hout.symm

theorem inTurns (h : Orderly limit es (run (new limit) es) (Wire.granted limit es)) :
    InTurns limit es where
  frames := h.frames
  nodup := h.nodup
  bytes := h.wire
  final hcloses more := by
    have hseals := (guarded_run limit es).sealed hcloses
    unfold run
    rw [List.foldl_append]
    exact hseals.run more

end Orderly

/-- Whatever the writers and shutdowns do, and whoever is dropped, the frames are on the wire one
after the other, if a socket that has failed takes nothing more. -/
theorem frames_in_turns (h : FailsForGood (new limit) es) : InTurns limit es :=
  (orderly_run h).inTurns

/-- A writer puts its frame in two pieces while another waits. That one is in the middle of its own
frame when the stream is shut, and then the socket fails; a third gets the permit too late. -/
def shutMidway : List Event :=
  let frame octets := Frame.message 2 .response none none octets
  [.begin 0 (frame [7]), .begin 1 (frame [8, 9]), .begin 2 (frame []), .advance 0, .advance 0,
    .advance 0, .advance 1, .put 0 5, .advance 1, .put 0 100, .flush 0, .advance 1, .advance 1,
    .put 1 3, .advance 2, .beginShut 7, .shut 7, .shut 7, .fail 1, .shut 7, .advance 2, .advance 2,
    .advance 1]

theorem shutMidway_inTurns : FailsForGood (new 100) shutMidway ∧ InTurns 100 shutMidway := by
  have hfails : FailsForGood (new 100) shutMidway := by decide +kernel
  exact ⟨hfails, frames_in_turns hfails⟩

end Wire

end Stream

end Rpc
