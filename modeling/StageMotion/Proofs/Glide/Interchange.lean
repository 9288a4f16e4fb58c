import Mathlib.Logic.Function.Basic
import StageMotion.Slots

/-!
# Two ways to drive a glide

The glide at a call site can be driven in two ways (`Drive`): the store ticks the slot of the
site, or the slot is taken out of the store, a glide block runs on it, and it is put back. The
store puts back only a slot that is filled, while whoever puts back an empty slot clears the site.
Both ways leave the same store and the same target, and give the same answer
(`Slots.lend_glideToXY`).

A `Crew` is a store, a palette and targets of any kinds, which the sites drive in any way they
like. Which of the two ways each tick of a run goes makes no difference to anything that can be
seen on the way (`drives_interchangeable`).
-/

namespace StageMotion

variable {γ α : Type} [Scalar α] [Draws γ α]

/-! ## One tick -/

/-- A glide block that is lent the slot of a site leaves what a tick of the slot in the store
leaves, and the palette as it was. -/
theorem Slots.lend_glideToXY {τ : Type} [Movable τ α] (slots : Slots α) (site : CallSite)
    (moment : Moment α) (palette : Palette γ α) (target : τ) (seconds x y : α) :
    let lent := slots.lend site moment palette target (.glideToXY seconds x y)
    let ticked := slots.tick site moment.now seconds ⟨x, y⟩ target
    lent.1 = ticked.1 ∧ lent.2.progress = ticked.2.progress ∧ lent.2.target = ticked.2.target ∧
      lent.2.notes = ticked.2.notes ∧ lent.2.palette = palette := by
  intro lent ticked
  -- both fill the slot of the site with what one tick of its glide leaves
  have hlent : lent.1 = slots.put site lent.2.slot :=
    slots.fst_lend site moment palette target (.glideToXY seconds x y)
  have hslots : ticked.1 = slots.put site lent.2.slot :=
    slots.fst_tick site moment.now seconds ⟨x, y⟩ target
  have hticked : ticked.2 = Glide.tick (slots.get? site) moment.now seconds ⟨x, y⟩ target :=
    slots.snd_tick site moment.now seconds ⟨x, y⟩ target
  rw [hlent, hslots, hticked]
  exact ⟨rfl, rfl, rfl, rfl, rfl⟩

/-! ## Runs -/

/-- The two ways to run one tick of a glide. -/
inductive Drive
  /-- The store ticks the slot of the site. -/
  | stored
  /-- The slot is taken out, a glide block runs on it, and it is put back. -/
  | lent
  deriving DecidableEq, Repr

/-- What the sites of a running program share: the palette, the store of slots, and the targets,
which may be of different kinds. -/
structure Crew (γ : Type) {ι : Type} (τ : ι → Type) (α : Type) where
  palette : Palette γ α
  slots : Slots α
  targets : ∀ i, τ i

/-- What happens while glides are driven. -/
inductive Incident (γ : Type) {ι : Type} (τ : ι → Type) (α : Type)
  /-- A tick of the glide that a site drives with one of the targets. -/
  | tick (site : CallSite) (rider : ι) (moment : Moment α) (seconds x y : α)
  /-- Any block that is lent the slot of a site. -/
  | run (site : CallSite) (rider : ι) (moment : Moment α) (block : Block α)
  | abandon (site : CallSite)
  | clear
  /-- Something else, which leaves the slots alone. -/
  | elsewhere (palette : Palette γ α → Palette γ α) (targets : (∀ i, τ i) → ∀ i, τ i)

/-- What there is to see after an incident: the crew, the answer, and the notes. -/
structure Sight (γ : Type) {ι : Type} (τ : ι → Type) (α : Type) where
  crew : Crew γ τ α
  /-- How far the glide is, if a block was run. -/
  progress? : Option Progress
  /-- Whether a glide was under way, if a site was abandoned. -/
  wasActive? : Option Bool
  notes : List (Note α)

namespace Crew

variable {ι : Type} [DecidableEq ι] {τ : ι → Type} [∀ i, Movable (τ i) α]

/-- The crew after a block that was lent the slot of a site. -/
def lend (crew : Crew γ τ α) (site : CallSite) (rider : ι) (moment : Moment α) (block : Block α) :
    Sight γ τ α :=
  let (slots, turn) := crew.slots.lend site moment crew.palette (crew.targets rider) block
  ⟨⟨turn.palette, slots, Function.update crew.targets rider turn.target⟩, some turn.progress, none,
    turn.notes⟩

/-- The crew after an incident. The way to drive matters to nothing but ticks of glides. -/
def after (crew : Crew γ τ α) (drive : Drive) : Incident γ τ α → Sight γ τ α
  | .tick site rider moment seconds x y =>
    match drive with
    | .stored =>
      let (slots, ticked) := crew.slots.tick site moment.now seconds ⟨x, y⟩ (crew.targets rider)
      ⟨⟨crew.palette, slots, Function.update crew.targets rider ticked.target⟩,
        some ticked.progress, none, ticked.notes⟩
    | .lent => crew.lend site rider moment (.glideToXY seconds x y)
  | .run site rider moment block => crew.lend site rider moment block
  | .abandon site =>
    let (slots, left) := crew.slots.abandon site
    ⟨{ crew with slots }, none, some left.wasActive, left⟩
  | .clear => ⟨{ crew with slots := crew.slots.clear }, none, none, []⟩
  | .elsewhere palette targets =>
    ⟨⟨palette crew.palette, crew.slots, targets crew.targets⟩, none, none, []⟩

/-- What there is to see after each incident of a run, if the ticks are driven in the given ways,
one for each incident. -/
def watch (crew : Crew γ τ α) (drives : Nat → Drive) : List (Incident γ τ α) → List (Sight γ τ α)
  | [] => []
  | incident :: incidents =>
    let sight := crew.after (drives 0) incident
    sight :: sight.crew.watch (fun n => drives (n + 1)) incidents

theorem after_eq_stored (crew : Crew γ τ α) (drive : Drive) (incident : Incident γ τ α) :
    crew.after drive incident = crew.after .stored incident := by
  cases drive with
  | stored => rfl
  | lent =>
    cases incident with
    | tick site rider moment seconds x y =>
      obtain ⟨hslots, hprogress, htarget, hnotes, hpalette⟩ :=
        crew.slots.lend_glideToXY site moment crew.palette (crew.targets rider) seconds x y
      simp only [after, lend, hslots, hprogress, htarget, hnotes, hpalette]
    | run | abandon | clear | elsewhere => rfl

theorem watch_eq_stored (crew : Crew γ τ α) (drives : Nat → Drive)
    (incidents : List (Incident γ τ α)) :
    crew.watch drives incidents = crew.watch (fun _ => .stored) incidents := by
  induction incidents generalizing crew drives with
  | nil => rfl
  | cons incident incidents ih => simp only [watch, crew.after_eq_stored (drives 0), ih]

end Crew

/-- **The two ways to drive a glide are interchangeable**: for every store, site, moment, target
and arguments, a glide block that is lent the slot of the site leaves the store and the target as a
tick of the slot in the store does, with the same answer and the same notes. So in every run, over
any sites and targets, whichever ticks go the one way and whichever the other, the answers, the
targets and the store are the same after each incident. -/
theorem drives_interchangeable {ι : Type} [DecidableEq ι] {τ : ι → Type}
    [∀ i, Movable (τ i) α] :
    (∀ (slots : Slots α) (site : CallSite) (moment : Moment α) (palette : Palette γ α) (i : ι)
      (target : τ i) (seconds x y : α),
      let lent := slots.lend site moment palette target (.glideToXY seconds x y)
      let ticked := slots.tick site moment.now seconds ⟨x, y⟩ target
      lent.1 = ticked.1 ∧ lent.2.progress = ticked.2.progress ∧
        lent.2.target = ticked.2.target ∧ lent.2.notes = ticked.2.notes ∧
        lent.2.palette = palette) ∧
    ∀ (crew : Crew γ τ α) (incidents : List (Incident γ τ α)) (drives drives' : Nat → Drive),
      crew.watch drives incidents = crew.watch drives' incidents := by
  refine ⟨fun slots site moment palette i target seconds x y =>
    slots.lend_glideToXY site moment palette target seconds x y,
    fun crew incidents drives drives' => ?_⟩
  rw [crew.watch_eq_stored drives, crew.watch_eq_stored drives']

end StageMotion
