import CryptoSuite.Proofs.Hash.OneShot
import Mathlib.Data.List.DropRight
import Mathlib.Data.Option.Basic
import Mathlib.Logic.Function.Basic

/-!
# Many computations side by side

Computations of one hash function are in boxes, which are owned by names. A call
starts a computation in a new box, copies one into a new box for another name, or
asks something of one, and calls come in any order (`HashFunction.Call`). No box has
two owners (`HashFunction.separate_run`), so a call changes the computation under its
own name only (`HashFunction.state?_perform_of_target_ne`), and those under other
names answer the same without it (`HashFunction.filter_transcript`).

`requests` reads off a history what was asked of the computation under a name, and of
the one it was copied from before that. The computation carries the octets among
these requests that came after the last that was no update
(`HashFunction.carries_run`), and over an engine that computes a function it gives the
value at them. Main statement : `HashFunction.contexts_digest_own_message`.
-/

namespace CryptoSuite

namespace HashFunction

variable {σ ι : Type}

/-! ## Calls -/

/-- What can be asked of a computation. -/
inductive Request where
  /-- Absorb octets. -/
  | update (octets : Bytes)
  /-- Produce the digest and start over. -/
  | finalize
  /-- Forget what was absorbed. -/
  | reset

/-- A call on computations under names. -/
inductive Call (ι : Type) where
  /-- Start a computation. -/
  | create (name : ι)
  /-- Copy a computation to another name. -/
  | clone (source target : ι)
  /-- Ask something of a computation. -/
  | ask (name : ι) (request : Request)

/-- The name whose computation a call may change. -/
def Call.target : Call ι → ι
  | create name => name
  | clone _ target => target
  | ask name _ => name

/-- The octets a request brings. -/
def Request.part? : Request → Option Bytes
  | update octets => some octets
  | _ => none

/-- The computation after a request. -/
def serve (hash : HashFunction σ) (s : σ) : Request → σ
  | .update octets => hash.update s octets
  | .finalize => (hash.finalize s).2
  | .reset => hash.reset s

/-- The digest a request is answered with. -/
def reply (hash : HashFunction σ) (s : σ) : Request → Option Bytes
  | .finalize => some (hash.finalize s).1
  | _ => none

/-- Computations in boxes, and the box that a name owns, if it owns one. -/
structure Contexts (ι σ : Type) where
  boxes : List σ
  owned : ι → Option ℕ

namespace Contexts

/-- No boxes and no owners. -/
def empty : Contexts ι σ where
  boxes := []
  owned _ := none

/-- The computation in the box of a name. -/
def state? (contexts : Contexts ι σ) (name : ι) : Option σ :=
  (contexts.owned name).bind (contexts.boxes[·]?)

/-- Change the computation in the box of a name. -/
def change (contexts : Contexts ι σ) (name : ι) (f : σ → σ) : Contexts ι σ where
  boxes := (contexts.owned name).elim contexts.boxes (contexts.boxes.modify · f)
  owned := contexts.owned

/-- Put a computation into a new box, and give that to a name. -/
def place [DecidableEq ι] (contexts : Contexts ι σ) (name : ι) (s : σ) : Contexts ι σ where
  boxes := contexts.boxes ++ [s]
  owned := Function.update contexts.owned name (some contexts.boxes.length)

end Contexts

variable [DecidableEq ι]

/-- The computations after a call. Under a name without a computation there is nothing to copy
or to ask. -/
def perform (hash : HashFunction σ) (contexts : Contexts ι σ) : Call ι → Contexts ι σ
  | .create name => contexts.place name hash.start
  | .clone source target =>
    (contexts.state? source).elim contexts fun s => contexts.place target (hash.clone s)
  | .ask name request => contexts.change name (hash.serve · request)

/-- The digest a call is answered with. -/
def answer (hash : HashFunction σ) (contexts : Contexts ι σ) : Call ι → Option Bytes
  | .ask name request => (contexts.state? name).bind (hash.reply · request)
  | _ => none

/-- The computations after a history of calls. -/
def run (hash : HashFunction σ) (calls : List (Call ι)) : Contexts ι σ :=
  calls.foldl hash.perform .empty

/-- The digests that calls are answered with, each with the name it was asked of. -/
def transcript (hash : HashFunction σ) : Contexts ι σ → List (Call ι) → List (ι × Bytes)
  | _, [] => []
  | contexts, call :: calls =>
    ((hash.answer contexts call).map (call.target, ·)).toList ++
      hash.transcript (hash.perform contexts call) calls

/-! ## What a history says of one computation -/

/-- What was asked of the computation under a name, in a history with the last call first. -/
def requestsBack (name : ι) : List (Call ι) → Option (List Request)
  | [] => none
  | .create created :: earlier => if created = name then some [] else requestsBack name earlier
  | .clone source target :: earlier =>
    if target = name then (requestsBack source earlier).or (requestsBack name earlier)
    else requestsBack name earlier
  | .ask asked request :: earlier =>
    if asked = name then (requestsBack name earlier).map (· ++ [request])
    else requestsBack name earlier

/-- What was asked of the computation under a name since it was started, the requests to the
one it was copied from included. -/
def requests (calls : List (Call ι)) (name : ι) : Option (List Request) :=
  requestsBack name calls.reverse

/-- The octets brought since the last request that was no update. -/
def message (requests : List Request) : Bytes :=
  ((requests.rtakeWhile fun request => request.part?.isSome).filterMap Request.part?).flatten

omit [DecidableEq ι] in
theorem message_concat (requests : List Request) (request : Request) :
    message (requests ++ [request]) = request.part?.elim [] (message requests ++ ·) := by
  cases h : request.part? <;> simp [message, h]

theorem requests_concat (calls : List (Call ι)) (call : Call ι) (name : ι) :
    requests (calls ++ [call]) name = if call.target = name then
      match call with
      | .create _ => some []
      | .clone source _ => (requests calls source).or (requests calls name)
      | .ask _ request => (requests calls name).map (· ++ [request])
    else requests calls name := by
  rw [requests, List.reverse_concat]
  cases call <;> rfl

theorem run_concat (hash : HashFunction σ) (calls : List (Call ι)) (call : Call ι) :
    hash.run (calls ++ [call]) = hash.perform (hash.run calls) call :=
  List.foldl_concat hash.perform .empty call calls

/-! ## Boxes of their own -/

/-- Every owned box is there, and no box has two owners. -/
structure Contexts.Separate (contexts : Contexts ι σ) : Prop where
  lt : ∀ {name : ι} {box : ℕ}, contexts.owned name = some box → box < contexts.boxes.length
  eq : ∀ {name other : ι} {box : ℕ}, contexts.owned name = some box →
    contexts.owned other = some box → name = other

namespace Contexts

variable {contexts : Contexts ι σ} {name other : ι}

omit [DecidableEq ι] in
theorem separate_empty : (empty : Contexts ι σ).Separate :=
  ⟨nofun, nofun⟩

omit [DecidableEq ι] in
theorem length_boxes_change (contexts : Contexts ι σ) (name : ι) (f : σ → σ) :
    (contexts.change name f).boxes.length = contexts.boxes.length := by
  rw [change]
  cases contexts.owned name with
  | none => rfl
  | some box => exact List.length_modify ..

omit [DecidableEq ι] in
theorem state?_change_self (f : σ → σ) :
    (contexts.change name f).state? name = (contexts.state? name).map f := by
  rw [state?, state?, change]
  cases contexts.owned name with
  | none => rfl
  | some box => exact List.getElem?_modify_eq f box contexts.boxes

theorem owned_place_self (contexts : Contexts ι σ) (name : ι) (s : σ) :
    (contexts.place name s).owned name = some contexts.boxes.length :=
  Function.update_self ..

theorem owned_place_of_ne (contexts : Contexts ι σ) (s : σ) (hne : other ≠ name) :
    (contexts.place name s).owned other = contexts.owned other :=
  Function.update_of_ne hne ..

theorem state?_place_self (contexts : Contexts ι σ) (name : ι) (s : σ) :
    (contexts.place name s).state? name = some s := by
  rw [state?, owned_place_self]
  exact List.getElem?_concat_length

omit [DecidableEq ι] in
theorem Separate.change (h : contexts.Separate) (name : ι) (f : σ → σ) :
    (contexts.change name f).Separate :=
  ⟨fun howned => (length_boxes_change contexts name f).symm ▸ h.lt howned, h.eq⟩

/-- The new box is none of those that were owned before. -/
theorem Separate.place (h : contexts.Separate) (name : ι) (s : σ) :
    (contexts.place name s).Separate := by
  have howned {other : ι} {box : ℕ} (hbox : (contexts.place name s).owned other = some box) :
      other = name ∧ box = contexts.boxes.length ∨
        other ≠ name ∧ contexts.owned other = some box ∧ box < contexts.boxes.length := by
    by_cases hname : other = name
    · subst hname
      rw [owned_place_self] at hbox
      exact .inl ⟨rfl, (Option.some.inj hbox).symm⟩
    · rw [owned_place_of_ne contexts s hname] at hbox
      exact .inr ⟨hname, hbox, h.lt hbox⟩
  constructor
  · intro other box hbox
    rw [Contexts.place, List.length_append, List.length_singleton]
    rcases howned hbox with ⟨-, rfl⟩ | ⟨-, -, hlt⟩
    · exact Nat.lt_succ_self _
    · exact Nat.lt_succ_of_lt hlt
  · intro first second box hfirst hsecond
    rcases howned hfirst with ⟨rfl, rfl⟩ | ⟨-, hbox, hlt⟩ <;>
      rcases howned hsecond with ⟨rfl, hlast⟩ | ⟨-, hbox', hlt'⟩
    · rfl
    · exact absurd hlt' (Nat.lt_irrefl _)
    · exact absurd (hlast ▸ hlt) (Nat.lt_irrefl _)
    · exact h.eq hbox hbox'

omit [DecidableEq ι] in
/-- The box of another name is not the one that is changed. -/
theorem Separate.state?_change (h : contexts.Separate) (f : σ → σ) (hne : other ≠ name) :
    (contexts.change name f).state? other = contexts.state? other := by
  rw [state?, state?, Contexts.change]
  cases hname : contexts.owned name with
  | none => rfl
  | some box =>
    cases hother : contexts.owned other with
    | none => rfl
    | some box' =>
      have hbox : box ≠ box' := by
        rintro rfl
        exact hne (h.eq hother hname)
      exact List.getElem?_modify_ne f contexts.boxes hbox

/-- The box of another name stays where it is. -/
theorem Separate.state?_place (h : contexts.Separate) (s : σ) (hne : other ≠ name) :
    (contexts.place name s).state? other = contexts.state? other := by
  rw [state?, state?, owned_place_of_ne contexts s hne]
  cases hother : contexts.owned other with
  | none => rfl
  | some box => exact List.getElem?_append_left (h.lt hother)

end Contexts

/-! ## Each computation on its own -/

variable {hash : HashFunction σ} {contexts contexts' : Contexts ι σ} {name : ι}

theorem separate_perform (h : contexts.Separate) (call : Call ι) :
    (hash.perform contexts call).Separate := by
  cases call with
  | create created => exact h.place created _
  | clone source target =>
    rw [perform]
    cases contexts.state? source with
    | none => exact h
    | some s => exact h.place target _
  | ask asked request => exact h.change asked _

theorem separate_run (hash : HashFunction σ) (calls : List (Call ι)) :
    (hash.run calls).Separate := by
  induction calls using List.reverseRecOn with
  | nil => exact Contexts.separate_empty
  | append_singleton calls call ih => exact run_concat hash calls call ▸ separate_perform ih call

/-- A call changes the computation under its own name only. -/
theorem state?_perform_of_target_ne (h : contexts.Separate) {call : Call ι}
    (hne : call.target ≠ name) :
    (hash.perform contexts call).state? name = contexts.state? name := by
  cases call with
  | create created => exact h.state?_place _ hne.symm
  | clone source target =>
    rw [perform]
    cases contexts.state? source with
    | none => rfl
    | some s => exact h.state?_place _ hne.symm
  | ask asked request => exact h.state?_change _ hne.symm

/-- Without the calls on other names, a computation gives the same digests. By induction on the
calls, for two states of affairs that agree under the name. -/
theorem filter_transcript (calls : List (Call ι)) (h : contexts.Separate) (h' : contexts'.Separate)
    (hagree : contexts.state? name = contexts'.state? name)
    (hclone : ∀ source, Call.clone source name ∉ calls) :
    (hash.transcript contexts calls).filter (·.1 = name) =
      hash.transcript contexts' (calls.filter (·.target = name)) := by
  induction calls generalizing contexts contexts' with
  | nil => rfl
  | cons call calls ih =>
    have hrest : ∀ source, Call.clone source name ∉ calls :=
      fun source h => hclone source (List.mem_cons_of_mem _ h)
    rw [transcript, List.filter_append]
    by_cases htarget : call.target = name
    · have hstep : hash.answer contexts call = hash.answer contexts' call ∧
          (hash.perform contexts call).state? name = (hash.perform contexts' call).state? name := by
        subst htarget
        cases call with
        | create created =>
          exact ⟨rfl, (Contexts.state?_place_self contexts created _).trans
            (Contexts.state?_place_self contexts' created _).symm⟩
        | clone source target => exact absurd List.mem_cons_self (hclone source)
        | ask asked request =>
          simp only [Call.target] at hagree
          simp only [answer, perform, Call.target, Contexts.state?_change_self, hagree, and_self]
      rw [List.filter_cons_of_pos (by simpa using htarget), transcript, hstep.1,
        ih (separate_perform h call) (separate_perform h' call) hstep.2 hrest]
      cases hash.answer contexts' call <;> simp [htarget]
    · rw [List.filter_cons_of_neg (by simpa using htarget),
        ih (separate_perform h call) h' ((state?_perform_of_target_ne h htarget).trans hagree)
          hrest]
      cases hash.answer contexts call <;> simp [htarget]

/-! ## Messages -/

/-- A request leaves a computation that carries the message of all requests. -/
theorem carries_serve {s : σ} {requests : List Request} (h : hash.Carries s (message requests))
    (request : Request) :
    hash.Carries (hash.serve s request) (message (requests ++ [request])) := by
  rw [message_concat]
  cases request with
  | update octets => exact h.update octets
  | finalize => exact h.finalize
  | reset => exact h.reset

/-- After any history a name has a computation if the history says so, which carries the message. A
copy carries what its original did. -/
theorem carries_run (hash : HashFunction σ) (calls : List (Call ι)) (name : ι) :
    Option.Rel (fun s requests => hash.Carries s (message requests))
      ((hash.run calls).state? name) (requests calls name) := by
  induction calls using List.reverseRecOn generalizing name with
  | nil => exact .none
  | append_singleton calls call ih =>
    have hsep := separate_run hash calls
    rw [run_concat, requests_concat]
    generalize hash.run calls = contexts at ih hsep ⊢
    split_ifs with htarget
    · subst htarget
      cases call with
      | create created =>
        rw [perform, Call.target, Contexts.state?_place_self]
        exact .some .start
      | clone source target =>
        have hsource := ih source
        simp only [perform, Call.target]
        generalize contexts.state? source = s?, requests calls source = earlier? at hsource ⊢
        cases hsource with
        | none => exact ih target
        | some h =>
          rw [Option.elim_some, Contexts.state?_place_self]
          exact .some h.clone
      | ask asked request =>
        have hasked := ih asked
        simp only [perform, Call.target, Contexts.state?_change_self]
        generalize contexts.state? asked = s?, requests calls asked = earlier? at hasked ⊢
        cases hasked with
        | none => exact .none
        | some h => exact .some (carries_serve h request)
    · rw [state?_perform_of_target_ne hsep htarget]
      exact ih name

section

variable {engine : DigestEngine σ} {function : Bytes → Bytes} {size : ℕ}

/-- The digest a computation gives after a history is the value of the function at its message. -/
theorem answer_finalize (h : engine.Digests function size) {digestSize blockSize : ℕ}
    {algorithm : String} (hhash : hash = ofEngine engine algorithm digestSize blockSize)
    (calls : List (Call ι)) (name : ι) :
    hash.answer (hash.run calls) (.ask name .finalize) =
      (requests calls name).map fun requests => function (message requests) := by
  have hrun := carries_run hash calls name
  rw [answer]
  generalize (hash.run calls).state? name = s?, requests calls name = requests? at hrun ⊢
  subst hhash
  cases hrun with
  | none => rfl
  | some hcarries => exact congrArg some (h.finalize_eq hcarries.fed)

/-- Let an engine compute a function, with values as long as the digests of SHA-224 or SHA-256.
After any history of calls on any number of computations of the hash function over it, finalizing
one of them gives the value at its message, which is the digest of the message in one go and has
the announced length, and under a name that was given to none there is none to finalize. Whatever
calls follow, those on other names can be left out : the computation gives the same digests without
them, as long as no other is copied to its name. -/
theorem contexts_digest_own_message (h : engine.Digests function size) {hash : HashFunction σ}
    (hhash : hash = sha224 engine ∧ size = 28 ∨ hash = sha256 engine ∧ size = 32)
    (calls : List (Call ι)) (name : ι) :
    hash.answer (hash.run calls) (.ask name .finalize) =
      (requests calls name).map (fun requests => function (message requests)) ∧
    (∀ m, hash.digest m = function m) ∧
    (∀ digest, hash.answer (hash.run calls) (.ask name .finalize) = some digest →
      digest.length = hash.digestSize) ∧
    ∀ later, (∀ source, Call.clone source name ∉ later) →
      (hash.transcript (hash.run calls) later).filter (·.1 = name) =
        hash.transcript (hash.run calls) (later.filter (·.target = name)) := by
  obtain ⟨algorithm, blockSize, heq⟩ :
      ∃ algorithm blockSize, hash = ofEngine engine algorithm size blockSize := by
    rcases hhash with ⟨rfl, rfl⟩ | ⟨rfl, rfl⟩
    · exact ⟨_, _, rfl⟩
    · exact ⟨_, _, rfl⟩
  have hanswer := answer_finalize h heq calls name
  subst heq
  refine ⟨hanswer, digest_ofEngine h, fun digest hdigest => ?_, fun later hclone => ?_⟩
  · rw [hanswer] at hdigest
    obtain ⟨requests, -, rfl⟩ := Option.map_eq_some_iff.mp hdigest
    exact h.length_eq _
  · have hsep := separate_run (ofEngine engine algorithm size blockSize) calls
    exact filter_transcript later hsep hsep rfl hclone

end

/-- A computation of SHA-256 that was copied after `61`. The copy goes on with `62`, the original
is finalized and goes on with `63`, and resets of the original do not reach the copy. -/
theorem contexts_digest_own_message_forked :
    let hash := sha256 Sha2.engine256
    let digest := Sha2.standard Sha2.start256 32
    let calls : List (Call ℕ) := [.create 0, .ask 0 (.update [0x61]), .clone 0 1,
      .ask 1 (.update [0x62]), .ask 0 .finalize, .ask 0 (.update [0x63])]
    let later : List (Call ℕ) := [.ask 0 .reset, .ask 1 .finalize]
    Sha2.engine256.Digests digest 32 ∧
      hash.answer (hash.run calls) (.ask 1 .finalize) = some (digest [0x61, 0x62]) ∧
      hash.answer (hash.run calls) (.ask 0 .finalize) = some (digest [0x63]) ∧
      (∀ source, Call.clone source 1 ∉ later) ∧
      (hash.transcript (hash.run calls) later).filter (·.1 = 1) =
        hash.transcript (hash.run calls) [.ask 1 .finalize] := by
  intro hash digest calls later
  have hengine : Sha2.engine256.Digests digest 32 := Sha2.digests_engine Sha2.start256 le_rfl
  have hlater : ∀ source, Call.clone source 1 ∉ later := fun source => by simp [later]
  obtain ⟨hcopy, -, -, hothers⟩ := contexts_digest_own_message hengine (.inr ⟨rfl, rfl⟩) calls 1
  obtain ⟨horiginal, -⟩ := contexts_digest_own_message hengine (.inr ⟨rfl, rfl⟩) calls 0
  exact ⟨hengine, hcopy, horiginal, hlater, hothers later hlater⟩

end HashFunction

end CryptoSuite
