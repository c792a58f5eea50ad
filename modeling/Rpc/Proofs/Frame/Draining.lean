import Rpc.Proofs.Frame.Chunks

/-! # Draining a decoder

A decoder is drained by asking it for frames until it wants more octets or is stuck. What comes out
depends on the octets alone and not on the chunks in which they were fed, be they well-formed or
not: one reading looks no further than the octets that it consumes, and these are the length word
and as many octets as it announces, whatever they hold.
-/
namespace Rpc

namespace Reading

def followedBy (r : Reading) (more : Bytes) : Reading :=
  match r with
  | .incomplete => .incomplete
  | .stuck e => .stuck e
  | .refused e rest => .refused e (rest ++ more)
  | .frame f rest => .frame f (rest ++ more)

end Reading

namespace Drained

/-- Two drainings in a row. Once the first got stuck, the second says nothing new. -/
def andThen (d later : Drained) : Drained :=
  match d.stuck with
  | none => ⟨d.items ++ later.items, later.stuck, later.rest⟩
  | some e => ⟨d.items, some e, later.rest⟩

/-- What reading on gives after a draining. -/
def ending (d : Drained) : Reading :=
  match d.stuck with
  | none => .incomplete
  | some e => .stuck e

theorem andThen_self (d : Drained) : d.andThen ⟨[], none, d.rest⟩ = d := by
  obtain ⟨items, stuck, rest⟩ := d
  cases stuck with
  | none => simp only [andThen, List.append_nil]
  | some e => rfl

end Drained

namespace Frame

/-- Feeds chunks one after the other and drains the decoder after each of them. -/
def drainEach (limit : Nat) : Bytes → List Bytes → Drained
  | b, [] => ⟨[], none, b⟩
  | b, chunk :: chunks =>
    let d := drain limit (b ++ chunk)
    d.andThen (drainEach limit d.rest chunks)

/-- A body behind the word that announces its length. -/
def envelope (body : Bytes) : Bytes := Bytes.ofNat 4 body.length ++ body

/-- Whether a decoder waits for a body of this length. -/
def Awaited (limit : Nat) (body : Bytes) : Prop :=
  headSize ≤ body.length ∧ body.length ≤ limit ∧ body.length < 4294967296

/-- A buffer begins with a whole frame, good or bad, and this is what stands behind it. -/
inductive Yields (limit : Nat) (b : Bytes) : Except CodecError Frame → Bytes → Prop
  | refused {e : CodecError} {rest : Bytes} : read limit b = .refused e rest →
      Yields limit b (.error e) rest
  | frame {f : Frame} {rest : Bytes} : read limit b = .frame f rest → Yields limit b (.ok f) rest

variable {limit : Nat} {b rest : Bytes} {e : CodecError} {f : Frame} {item : Except CodecError Frame}

/-! ## One reading -/

/-- What has been read once does not depend on what comes behind it. -/
theorem read_append (h : read limit b ≠ .incomplete) (more : Bytes) :
    read limit (b ++ more) = (read limit b).followedBy more := by
  by_cases hshort : b.length < 4
  · exact absurd (by rw [read, if_pos hshort]) h
  · have hword : Bytes.wordAt (b ++ more) 0 4 = Bytes.wordAt b 0 4 :=
      Bytes.wordAt_append_left (by omega)
    have hshort' : ¬ (b ++ more).length < 4 := by
      rw [List.length_append]
      omega
    -- Every test of the reader is about octets that were there before.
    rw [read, if_neg hshort] at h
    rw [read, read, if_neg hshort, if_neg hshort']
    simp only [hword] at h ⊢
    by_cases hlimit : limit < Bytes.wordAt b 0 4
    · rw [if_pos hlimit, if_pos hlimit, Reading.followedBy]
    · rw [if_neg hlimit] at h ⊢
      rw [if_neg hlimit]
      by_cases hhead : Bytes.wordAt b 0 4 < headSize
      · rw [if_pos hhead, if_pos hhead, Reading.followedBy]
      · rw [if_neg hhead] at h ⊢
        rw [if_neg hhead]
        by_cases hcut : b.length < 4 + Bytes.wordAt b 0 4
        · exact absurd (if_pos hcut) h
        · have hcut' : ¬ (b ++ more).length < 4 + Bytes.wordAt b 0 4 := by
            rw [List.length_append]
            omega
          have hbody : Bytes.slice (b ++ more) 4 (Bytes.wordAt b 0 4) =
              Bytes.slice b 4 (Bytes.wordAt b 0 4) := Bytes.slice_append_left (by omega)
          rw [if_neg hcut, if_neg hcut', hbody, List.drop_append_of_le_length (by omega)]
          cases readBody (Bytes.slice b 4 (Bytes.wordAt b 0 4)) <;> simp only [Reading.followedBy]

theorem Yields.append (h : Yields limit b item rest) (more : Bytes) :
    Yields limit (b ++ more) item (rest ++ more) := by
  cases h with
  | refused h =>
    have hmore := read_append (by rw [h]; simp) more
    rw [h] at hmore
    exact .refused hmore
  | frame h =>
    have hmore := read_append (by rw [h]; simp) more
    rw [h] at hmore
    exact .frame hmore

theorem Yields.length_le (h : Yields limit b item rest) :
    rest.length + (4 + headSize) ≤ b.length := by
  have hwhole : (∃ f, read limit b = .frame f rest) ∨ ∃ e, read limit b = .refused e rest := by
    cases h with
    | refused h => exact .inr ⟨_, h⟩
    | frame h => exact .inl ⟨_, h⟩
  obtain ⟨hhead, -, hlen, rfl⟩ := read_consumes hwhole
  rw [List.length_drop]
  omega

theorem Yields.decodeAll (h : Yields limit b item rest) (es : List DecoderEvent) :
    decodeAll limit b (.decode :: es) =
      (item.map some :: (decodeAll limit rest es).1, (decodeAll limit rest es).2) := by
  cases h with
  | refused h => simp only [Frame.decodeAll, h, Reading.rest, Reading.outcome, Except.map]
  | frame h => simp only [Frame.decodeAll, h, Reading.rest, Reading.outcome, Except.map]

/-- Whatever a body holds, what stands behind it is left. -/
theorem yields_envelope_append {body : Bytes} (h : Awaited limit body) (rest : Bytes) :
    Yields limit (envelope body ++ rest) (readBody body) rest := by
  obtain ⟨hhead, hlimit, hmax⟩ := h
  have hlen : (envelope body ++ rest).length = 4 + body.length + rest.length := by
    rw [envelope, List.length_append, List.length_append, Bytes.length_ofNat]
  have hword : Bytes.wordAt (envelope body ++ rest) 0 4 = body.length := by
    rw [envelope, List.append_assoc]
    exact Bytes.wordAt_ofNat_append hmax _
  have hslice : Bytes.slice (envelope body ++ rest) 4 body.length = body := by
    rw [envelope, List.append_assoc, Bytes.slice_append_right (by simp), Bytes.length_ofNat,
      Nat.sub_self, Bytes.slice_append_left (by simp), Bytes.slice, List.drop_zero,
      List.take_length]
  have hdrop : (envelope body ++ rest).drop (4 + body.length) = rest :=
    List.drop_left' (by simp [envelope])
  have hshort : ¬ (envelope body ++ rest).length < 4 := by omega
  have hcut : ¬ (envelope body ++ rest).length < 4 + body.length := by omega
  cases hbody : readBody body
  all_goals
    constructor
    simp only [read, if_neg hshort, hword, if_neg (Nat.not_lt.mpr hlimit),
      if_neg (Nat.not_lt.mpr hhead), if_neg hcut, hslice, hbody, hdrop]

/-! ## Draining -/

theorem drain_of_incomplete (h : read limit b = .incomplete) : drain limit b = ⟨[], none, b⟩ := by
  rw [drain]
  split <;> simp_all

theorem drain_of_stuck (h : read limit b = .stuck e) : drain limit b = ⟨[], some e, b⟩ := by
  rw [drain]
  split <;> simp_all

theorem drain_of_refused (h : read limit b = .refused e rest) : drain limit b =
    { drain limit rest with items := .error e :: (drain limit rest).items } := by
  rw [drain]
  split <;> simp_all

theorem drain_of_frame (h : read limit b = .frame f rest) : drain limit b =
    { drain limit rest with items := .ok f :: (drain limit rest).items } := by
  rw [drain]
  split <;> simp_all

theorem Yields.drain (h : Yields limit b item rest) : drain limit b =
    { drain limit rest with items := item :: (drain limit rest).items } := by
  cases h with
  | refused h => exact drain_of_refused h
  | frame h => exact drain_of_frame h

/-- A property of drainings holds if it holds of those that give nothing and passes from what is
left behind a whole frame to the buffer that begins with it. -/
theorem drain_induction {I : Bytes → Drained → Prop}
    (incomplete : ∀ b, read limit b = .incomplete → I b ⟨[], none, b⟩)
    (stuck : ∀ b e, read limit b = .stuck e → I b ⟨[], some e, b⟩)
    (yields : ∀ b item rest, Yields limit b item rest → I rest (drain limit rest) →
      I b { drain limit rest with items := item :: (drain limit rest).items })
    (b : Bytes) : I b (drain limit b) := by
  induction hn : b.length using Nat.strongRecOn generalizing b with
  | ind n ih =>
    subst hn
    have hyields : ∀ {item rest}, Yields limit b item rest → I b (drain limit b) := by
      intro item rest h
      have hshorter : rest.length < b.length := by
        have hlen := h.length_le
        omega
      exact h.drain ▸ yields b item rest h (ih _ hshorter rest rfl)
    cases hr : read limit b with
    | incomplete => exact drain_of_incomplete hr ▸ incomplete b hr
    | stuck e => exact drain_of_stuck hr ▸ stuck b e hr
    | refused e rest => exact hyields (.refused hr)
    | frame f rest => exact hyields (.frame hr)

theorem read_rest_drain (b : Bytes) : read limit (drain limit b).rest = (drain limit b).ending :=
  drain_induction (I := fun _ d => read limit d.rest = d.ending) (fun _ h => h) (fun _ _ h => h)
    (fun _ _ _ _ ih => ih) b

theorem decodeAll_drain (b : Bytes) :
    decodeAll limit b (List.replicate (drain limit b).items.length .decode) =
      ((drain limit b).items.map (Except.map some), (drain limit b).rest) := by
  refine drain_induction (I := fun b d => decodeAll limit b
    (List.replicate d.items.length .decode) = (d.items.map (Except.map some), d.rest))
    (fun _ _ => rfl) (fun _ _ _ => rfl) (fun b item rest h ih => ?_) b
  rw [List.length_cons, List.replicate_succ, h.decodeAll, ih, List.map_cons]

/-- Every item of a draining takes fifteen octets at least, so there are few of them. -/
theorem items_length_le (b : Bytes) :
    (4 + headSize) * (drain limit b).items.length + (drain limit b).rest.length ≤ b.length := by
  refine drain_induction
    (I := fun b d => (4 + headSize) * d.items.length + d.rest.length ≤ b.length)
    (fun _ _ => by simp) (fun _ _ _ => by simp) (fun b item rest h ih => ?_) b
  have hlen := h.length_le
  simp only [List.length_cons, Nat.mul_succ]
  omega

/-- Draining goes on where it ended before more octets came. -/
theorem drain_append (b more : Bytes) : drain limit (b ++ more) =
    (drain limit b).andThen (drain limit ((drain limit b).rest ++ more)) := by
  refine drain_induction (I := fun b d => drain limit (b ++ more) =
    d.andThen (drain limit (d.rest ++ more))) (fun b _ => rfl) (fun b e hr => ?_)
    (fun b item rest h ih => ?_) b
  · have hmore := read_append (by rw [hr]; simp) more
    rw [hr, Reading.followedBy] at hmore
    simp only [drain_of_stuck hmore, Drained.andThen]
  · rw [(h.append more).drain, ih]
    cases hs : (drain limit rest).stuck <;> simp only [Drained.andThen, hs, List.cons_append]

theorem drainEach_drain (b : Bytes) (chunks : List Bytes) :
    (drain limit b).andThen (drainEach limit (drain limit b).rest chunks) =
      drain limit (b ++ chunks.flatten) := by
  induction chunks generalizing b with
  | nil => rw [drainEach, Drained.andThen_self, List.flatten_nil, List.append_nil]
  | cons chunk chunks ih =>
    rw [drainEach, ih, List.append_assoc, ← List.flatten_cons, ← drain_append]

theorem drain_envelopes {bodies : List Bytes} (h : ∀ body ∈ bodies, Awaited limit body)
    (rest : Bytes) : drain limit (bodies.flatMap envelope ++ rest) =
      { drain limit rest with items := bodies.map readBody ++ (drain limit rest).items } := by
  induction bodies with
  | nil => rfl
  | cons body bodies ih =>
    have hbody := yields_envelope_append (h body List.mem_cons_self)
      (bodies.flatMap envelope ++ rest)
    have hrest := ih fun later hlater => h later (List.mem_cons_of_mem _ hlater)
    rw [List.flatMap_cons, List.append_assoc, hbody.drain, hrest, List.map_cons, List.cons_append]

/-- Octets come out of a decoder in the same way however they are cut into chunks, if it is drained
after each chunk: the same frames and errors up to the first error that consumes nothing, and the
same octets left. Draining always ends, at the latest when fewer octets are left than a frame has.
Each of its items takes the length word and the octets that this announces, so the frames
behind a bad body are found where they would be behind a good one. -/
theorem drain_in_chunks (limit : Nat) (chunks : List Bytes) :
    drainEach limit [] chunks = drain limit chunks.flatten ∧
    (∀ b, decodeAll limit b (List.replicate (drain limit b).items.length .decode) =
        ((drain limit b).items.map (Except.map some), (drain limit b).rest) ∧
      read limit (drain limit b).rest = (drain limit b).ending ∧
      (4 + headSize) * (drain limit b).items.length + (drain limit b).rest.length ≤ b.length) ∧
    (∀ b rest, ((∃ f, read limit b = .frame f rest) ∨ ∃ e, read limit b = .refused e rest) →
      4 + Bytes.wordAt b 0 4 ≤ b.length ∧ rest = b.drop (4 + Bytes.wordAt b 0 4)) ∧
    ∀ (bodies : List Bytes) (rest : Bytes), (∀ body ∈ bodies, Awaited limit body) →
      drain limit (bodies.flatMap envelope ++ rest) =
        { drain limit rest with items := bodies.map readBody ++ (drain limit rest).items } := by
  have hnil : drain limit [] = ⟨[], none, []⟩ := drain_of_incomplete rfl
  refine ⟨?_, fun b => ⟨decodeAll_drain b, read_rest_drain b, items_length_le b⟩,
    fun b rest h => (read_consumes h).2.2, fun bodies rest h => drain_envelopes h rest⟩
  have hall : (drain limit []).andThen (drainEach limit (drain limit []).rest chunks) = _ :=
    drainEach_drain [] chunks
  rwa [hnil, List.nil_append] at hall

end Frame

end Rpc
