import Mathlib.Logic.Function.Basic
import StageMotion.Block
import StageMotion.Scalar.Real
import StageMotion.Slots
import StageMotion.Movable

/-!
# Sites that keep to their lanes

A running program has any number of call sites, and each of them drives a target of its own. They
share one store of slots and the palette of one stage, and they act in any order, also between the
moments at which a site takes its slot out of the store, runs a glide block on it and puts it back.
What belongs to one site is its `Lane`.

* `Program.lane_act_self` : an act at a site does to the lane of the site what `Lane.act` says,
  in which no store and no other site occurs;
* `Program.lane_act_of_ne` : it does nothing to any other lane;
* `Program.lane_clear` : to drop all glides is to each lane what to abandon its site is.

So a run leaves in each lane what the acts of that lane leave on their own (`Program.lane_run`), and
the sites do not disturb each other (`lanes_independent`).
-/

namespace StageMotion

variable {γ α : Type}

/-! ## Programs -/

/-- What a program does at one of its sites. -/
inductive Act (α : Type)
  | tick (now seconds : α) (stop : Vec2 α)
  | abandon
  /-- Takes the slot of the site out of the store. -/
  | take
  /-- Runs a glide block on the slot that was taken. -/
  | glide (moment : Moment α) (seconds x y : α)
  | put

/-- What a program does: an act at a site, or all glides dropped at once. -/
inductive Deed (α : Type)
  | atSite (site : CallSite) (act : Act α)
  | clear

/-- What a site keeps to itself: its target, the slot that it has in hand, and how its ticks went,
the latest first. -/
structure Driver (τ α : Type) where
  target : τ
  hand : Option (Glide α)
  answers : List Progress

/-- The driver after one more tick. -/
def Driver.ticked {τ : Type} (driver : Driver τ α) (target : τ) (progress : Progress) :
    Driver τ α :=
  { driver with target, answers := progress :: driver.answers }

/-- A running program. The targets of its sites may be of different kinds. -/
structure Program (γ : Type) (τ : CallSite → Type) (α : Type) where
  palette : Palette γ α
  slots : Slots α
  drivers : ∀ site, Driver (τ site) α

namespace Program

variable {τ : CallSite → Type} [Scalar α] [Draws γ α] [∀ site, Movable (τ site) α]

def setDriver (program : Program γ τ α) (site : CallSite) (driver : Driver (τ site) α) :
    Program γ τ α :=
  { program with drivers := Function.update program.drivers site driver }

/-- The program after an act at a site. -/
def act (program : Program γ τ α) (site : CallSite) (act : Act α) : Program γ τ α :=
  let driver := program.drivers site
  match act with
  | .tick now seconds stop =>
    let (slots, ticked) := program.slots.tick site now seconds stop driver.target
    { program with slots }.setDriver site (driver.ticked ticked.target ticked.progress)
  | .abandon => { program with slots := (program.slots.abandon site).1 }
  | .take =>
    let (slot, slots) := program.slots.take site
    { program with slots }.setDriver site { driver with hand := slot }
  | .glide moment seconds x y =>
    let turn := (Block.glideToXY seconds x y).tick moment
      { palette := program.palette, slot := driver.hand, target := driver.target }
    { program with palette := turn.palette }.setDriver site
      { driver.ticked turn.target turn.progress with hand := turn.slot }
  | .put =>
    { program with slots := program.slots.put site driver.hand }.setDriver site
      { driver with hand := none }

/-- The program after all glides are dropped. -/
def clear (program : Program γ τ α) : Program γ τ α :=
  { program with slots := program.slots.clear }

def perform (program : Program γ τ α) : Deed α → Program γ τ α
  | .atSite site act => program.act site act
  | .clear => program.clear

/-- The program after some deeds, one after another. -/
def run (program : Program γ τ α) (deeds : List (Deed α)) : Program γ τ α :=
  deeds.foldl perform program

end Program

/-! ## Lanes -/

/-- What belongs to one site: its driver, and its slot in the store. -/
structure Lane (τ α : Type) extends Driver τ α where
  stored : Option (Glide α)

/-- What an act does to the lane of its site. -/
def Lane.act {τ : Type} [Scalar α] [Movable τ α] (lane : Lane τ α) : Act α → Lane τ α
  | .tick now seconds stop =>
    let ticked := Glide.tick lane.stored now seconds stop lane.target
    ⟨lane.ticked ticked.target ticked.progress, ticked.slot⟩
  | .abandon => { lane with stored := none }
  | .take => { lane with stored := none, hand := lane.stored }
  | .glide moment seconds x y =>
    let ticked := Glide.tick lane.hand moment.now seconds ⟨x, y⟩ lane.target
    ⟨{ lane.ticked ticked.target ticked.progress with hand := ticked.slot }, lane.stored⟩
  | .put => { lane with stored := lane.hand, hand := none }

/-- The act that a deed is to a site, if it concerns the site. -/
def Deed.actAt? (site : CallSite) : Deed α → Option (Act α)
  | .atSite other act => if other = site then some act else none
  | .clear => some .abandon

/-- The deeds of a run that concern a site, as acts at that site. -/
def Deed.alone (site : CallSite) (deeds : List (Deed α)) : List (Deed α) :=
  (deeds.filterMap (actAt? site)).map (atSite site)

namespace Program

variable {τ : CallSite → Type}

def lane (program : Program γ τ α) (site : CallSite) : Lane (τ site) α :=
  ⟨program.drivers site, program.slots.get? site⟩

/-- The program with a store that holds nothing but the slot of one site. -/
def only (program : Program γ τ α) (site : CallSite) : Program γ τ α :=
  { program with slots := Slots.empty.put site (program.slots.get? site) }

theorem lane_only (program : Program γ τ α) (site : CallSite) :
    (program.only site).lane site = program.lane site := by
  simp [only, lane, Slots.get?_put]

/-- A program is its palette and its lanes. -/
theorem ext_lane {program other : Program γ τ α} (hpalette : program.palette = other.palette)
    (hlane : ∀ site, program.lane site = other.lane site) : program = other := by
  obtain ⟨palette, slots, drivers⟩ := program
  obtain ⟨palette', slots', drivers'⟩ := other
  obtain rfl : palette = palette' := hpalette
  obtain rfl : slots = slots' := Slots.ext_get? fun site => congrArg Lane.stored (hlane site)
  obtain rfl : drivers = drivers' := funext fun site => congrArg Lane.toDriver (hlane site)
  rfl

/-! ## One deed -/

theorem lane_clear [Scalar α] [∀ site, Movable (τ site) α] (program : Program γ τ α)
    (site : CallSite) : program.clear.lane site = (program.lane site).act .abandon := by
  simp [clear, lane, Lane.act, Slots.clear]

variable [Scalar α] [Draws γ α] [∀ site, Movable (τ site) α]

theorem palette_act (program : Program γ τ α) (site : CallSite) (act : Act α) :
    (program.act site act).palette = program.palette := by
  cases act <;> rfl

theorem lane_act_self (program : Program γ τ α) (site : CallSite) (act : Act α) :
    (program.act site act).lane site = (program.lane site).act act := by
  cases act <;>
    simp [Program.act, lane, Lane.act, setDriver, Slots.get?_tick, Slots.snd_tick,
      Slots.fst_abandon, Slots.take, Slots.get?_put, Block.tick, Actor.glide]

theorem lane_act_of_ne (program : Program γ τ α) {site other : CallSite} (h : other ≠ site)
    (act : Act α) : (program.act other act).lane site = program.lane site := by
  cases act <;>
    simp [Program.act, lane, setDriver, Slots.get?_tick, Slots.fst_abandon, Slots.take,
      Slots.get?_put, h, h.symm]

/-- A deed does to each lane what it is to the site of the lane. -/
theorem lane_perform (program : Program γ τ α) (deed : Deed α) (site : CallSite) :
    (program.perform deed).lane site =
      (deed.actAt? site).elim (program.lane site) (program.lane site).act := by
  cases deed with
  | atSite other act =>
    by_cases h : other = site
    · subst h
      simp [perform, Deed.actAt?, lane_act_self]
    · simp [perform, Deed.actAt?, h, lane_act_of_ne]
  | clear => simp [perform, Deed.actAt?, lane_clear]

/-! ## Runs -/

/-- A run leaves in each lane what the acts of the lane leave on their own. -/
theorem lane_run (program : Program γ τ α) (deeds : List (Deed α)) (site : CallSite) :
    (program.run deeds).lane site =
      (deeds.filterMap (Deed.actAt? site)).foldl Lane.act (program.lane site) := by
  induction deeds generalizing program with
  | nil => rfl
  | cons deed deeds ih =>
    change ((program.perform deed).run deeds).lane site = _
    rw [ih, lane_perform]
    cases h : deed.actAt? site <;> simp [h]

theorem lane_run_alone (program : Program γ τ α) (deeds : List (Deed α)) (site : CallSite) :
    (program.run (Deed.alone site deeds)).lane site = (program.run deeds).lane site := by
  have h : (Deed.alone site deeds).filterMap (Deed.actAt? site) =
      deeds.filterMap (Deed.actAt? site) := by
    simp [Deed.alone, List.filterMap_map, Function.comp_def, Deed.actAt?]
  rw [lane_run, lane_run, h]

/-- Acts at two sites commute. -/
theorem act_comm (program : Program γ τ α) {site other : CallSite} (h : site ≠ other)
    (act act' : Act α) :
    (program.act site act).act other act' = (program.act other act').act site act := by
  apply ext_lane
  · simp only [palette_act]
  intro third
  by_cases hsite : third = site
  · subst hsite
    rw [lane_act_of_ne _ h.symm, lane_act_self, lane_act_self, lane_act_of_ne _ h.symm]
  by_cases hother : third = other
  · subst hother
    rw [lane_act_self, lane_act_of_ne _ h, lane_act_of_ne _ h, lane_act_self]
  · simp only [lane_act_of_ne _ (Ne.symm hsite), lane_act_of_ne _ (Ne.symm hother)]

end Program

/-- **Independence of the sites**: in every run, and so at every point of one, the lane of a site
(its stored glide, its slot in hand, its target and how its ticks went) is what the deeds that
concern the site leave if they run alone, in their order and at their times, with a store that holds
nothing else. Acts at two sites commute, and to drop all glides is to each lane what to abandon its
site is. -/
theorem lanes_independent {τ : CallSite → Type} [Scalar α] [Draws γ α]
    [∀ site, Movable (τ site) α] (program : Program γ τ α) :
    (∀ (deeds : List (Deed α)) (site : CallSite), (program.run deeds).lane site =
      ((program.only site).run (Deed.alone site deeds)).lane site) ∧
    (∀ (site other : CallSite) (act act' : Act α), site ≠ other →
      (program.act site act).act other act' = (program.act other act').act site act) ∧
    ∀ site, program.clear.lane site = (program.act site .abandon).lane site := by
  refine ⟨fun deeds site => ?_, fun site other act act' h => program.act_comm h act act',
    fun site => ?_⟩
  · rw [← Program.lane_run_alone, Program.lane_run, Program.lane_run, Program.lane_only]
  · rw [Program.lane_clear, Program.lane_act_self]

/-- A cat glides with the ticks of its site. Meanwhile a dog has its slot in hand, when the cat
lands and all glides are dropped, and puts it back. -/
theorem lanes_independent_pair :
    let cat : CallSite := ⟨1⟩
    let dog : CallSite := ⟨2⟩
    let program : Program (ℕ → ℝ) (fun _ => Sprite ℝ) ℝ :=
      ⟨⟨.standard, fun _ => 0⟩, .empty, fun _ => ⟨.create "" none .standard, none, []⟩⟩
    let start : Act ℝ := .tick 0 1 ⟨100, 0⟩
    let land : Act ℝ := .tick 1000 1 ⟨100, 0⟩
    let glide : Act ℝ := .glide ⟨Stage.empty.world, 500⟩ 1 0 (-100)
    let deeds : List (Deed ℝ) := [.atSite cat start, .atSite dog .take, .atSite dog glide,
      .atSite cat land, .clear, .atSite dog .put]
    cat ≠ dog ∧
      (program.run deeds).lane cat = ((program.only cat).run
        [.atSite cat start, .atSite cat land, .atSite cat .abandon]).lane cat ∧
      (program.run deeds).lane dog = ((program.only dog).run
        [.atSite dog .take, .atSite dog glide, .atSite dog .abandon, .atSite dog .put]).lane dog ∧
      ((program.run deeds).lane cat).answers = [.done, .continuing] ∧
      ((program.run deeds).lane dog).stored.isSome ∧
      (program.act cat start).act dog glide = (program.act dog glide).act cat start := by
  intro cat dog program start land glide deeds
  obtain ⟨halone, hcomm, -⟩ := lanes_independent program
  have hne : cat ≠ dog := by decide
  have hcat : deeds.filterMap (Deed.actAt? cat) = [start, land, .abandon] := rfl
  have hdog : deeds.filterMap (Deed.actAt? dog) = [.take, glide, .abandon, .put] := rfl
  refine ⟨hne, ?_, ?_, ?_, ?_, hcomm cat dog start glide hne⟩
  · rw [halone, Deed.alone, hcat]
    rfl
  · rw [halone, Deed.alone, hdog]
    rfl
  · rw [Program.lane_run, hcat]
    norm_num [Lane.act, start, land, Program.lane, program, Driver.ticked, Glide.tick, Glide.launch,
      Glide.proceed, Glide.positionAt?, Stopwatch.start, Stopwatch.elapsed]
  · rw [Program.lane_run, hdog]
    norm_num [Lane.act, glide, Program.lane, program, Driver.ticked, Glide.tick, Glide.launch]

end StageMotion
