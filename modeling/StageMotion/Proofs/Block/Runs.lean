import StageMotion.Block

/-!
# Runs of blocks

A run is a list of calls, each of a block with what it sees and the slot it is lent. Blocks reach
their target only through its setters: whatever survives the setters that a block uses survives a
tick of it (`Block.tick_keeps`), and a run of blocks (`Actor.run_keeps`). The playfield of the
palette is the same throughout (`Actor.run_field`).
-/

namespace StageMotion

variable {γ τ α : Type}

/-! ## What a block can change -/

/-- What can be changed of a target. -/
inductive Aspect
  | position
  | heading
  | style
  deriving DecidableEq, Repr

/-- What a block can change of its target. -/
def Block.aspects : Block α → List Aspect
  | move _ | goToXY _ _ | goTo _ | glideToXY _ _ _ | glideTo _ _ => [.position]
  | changeX _ | setX _ | changeY _ | setY _ => [.position]
  | turnRight _ | turnLeft _ | pointInDirection _ | pointTowards _ => [.heading]
  | bounceOnEdge => [.heading, .position]
  | setRotationStyle _ => [.style]

/-- A property that holds of a target after an aspect of it is set, if it held before. -/
def Movable.Keeps [Movable τ α] (P : τ → Prop) : Aspect → Prop
  | .position => ∀ target position, P target → P (Movable.setPosition target position)
  | .heading => ∀ target heading, P target → P (Movable.setHeading target heading)
  | .style => ∀ target style, P target → P (Movable.setRotationStyle target style)

variable [Scalar α] [Movable τ α]

/-- A tick of a glide leaves its target alone or puts it somewhere. -/
theorem Glide.tick_keeps {P : τ → Prop} (keeps : Movable.Keeps P .position)
    (slot : Option (Glide α)) (now seconds : α) (stop : Vec2 α) {target : τ} (h : P target) :
    P (Glide.tick slot now seconds stop target).target := by
  cases slot with
  | none =>
    simp only [tick, launch]
    split
    · exact keeps _ _ h
    · exact h
  | some glide =>
    simp only [tick, proceed]
    split <;> exact keeps _ _ h

variable [Draws γ α]

/-- **Frame of a block**: what survives every change of the aspects that a block has survives a
tick of it. -/
theorem Block.tick_keeps {P : τ → Prop} {block : Block α}
    (keeps : ∀ aspect ∈ block.aspects, Movable.Keeps P aspect) (moment : Moment α)
    {actor : Actor γ τ α} (h : P actor.target) : P (block.tick moment actor).target := by
  cases block with
  | move | goToXY | changeX | setX | changeY | setY =>
    have moved : Movable.Keeps P .position := keeps .position (by simp [aspects])
    exact moved _ _ h
  | turnRight | turnLeft | pointInDirection =>
    have turned : Movable.Keeps P .heading := keeps .heading (by simp [aspects])
    exact turned _ _ h
  | goTo goal =>
    have moved : Movable.Keeps P .position := keeps .position (by simp [aspects])
    simp only [tick]
    split
    · exact moved _ _ h
    · exact h
  | pointTowards goal =>
    have turned : Movable.Keeps P .heading := keeps .heading (by simp [aspects])
    cases goal with
    | random | pointer => exact turned _ _ h
    | named name =>
      simp only [tick]
      split
      · exact turned _ _ h
      · exact h
  | glideToXY =>
    have moved : Movable.Keeps P .position := keeps .position (by simp [aspects])
    exact Glide.tick_keeps moved _ _ _ _ h
  | glideTo seconds goal =>
    have moved : Movable.Keeps P .position := keeps .position (by simp [aspects])
    simp only [tick]
    split
    · exact Glide.tick_keeps moved _ _ _ _ h
    · exact h
  | bounceOnEdge =>
    have moved : Movable.Keeps P .position := keeps .position (by simp [aspects])
    have turned : Movable.Keeps P .heading := keeps .heading (by simp [aspects])
    simp only [tick]
    split
    · exact moved _ _ (turned _ _ h)
    · exact h
  | setRotationStyle name =>
    have styled : Movable.Keeps P .style := keeps .style (by simp [aspects])
    simp only [tick]
    split
    · exact styled _ _ h
    · exact h

theorem Block.tick_field (block : Block α) (moment : Moment α) (actor : Actor γ τ α) :
    (block.tick moment actor).palette.field = actor.palette.field := by
  cases block with
  | pointTowards goal =>
    cases goal with
    | named => simp only [tick]; split <;> rfl
    | _ => rfl
  | goTo | glideTo | bounceOnEdge | setRotationStyle => simp only [tick]; split <;> rfl
  | _ => rfl

/-! ## Runs -/

/-- One call of a block: the block, what it sees, and the slot that it is lent. -/
structure Call (α : Type) where
  block : Block α
  moment : Moment α
  slot : Option (Glide α)

namespace Actor

/-- The turn that a call leaves. -/
def call (actor : Actor γ τ α) (c : Call α) : Turn γ τ α :=
  c.block.tick c.moment { actor with slot := c.slot }

theorem call_keeps {P : τ → Prop} (keeps : ∀ aspect, Movable.Keeps P aspect) (c : Call α)
    {actor : Actor γ τ α} (h : P actor.target) : P (actor.call c).target :=
  Block.tick_keeps (fun aspect _ => keeps aspect) c.moment h

theorem call_field (actor : Actor γ τ α) (c : Call α) :
    (actor.call c).palette.field = actor.palette.field :=
  Block.tick_field c.block c.moment _

theorem call_move (actor : Actor γ τ α) {c : Call α} {steps : α} (h : c.block = .move steps) :
    (actor.call c).target = Movable.setPosition actor.target
      (Movable.position actor.target + steps • Heading.vector (Movable.heading actor.target)) := by
  rw [call, h]
  rfl

/-- The actor after some calls, one after another. -/
def run (actor : Actor γ τ α) (calls : List (Call α)) : Actor γ τ α :=
  calls.foldl (fun actor c => (actor.call c).toActor) actor

@[simp] theorem run_nil (actor : Actor γ τ α) : actor.run [] = actor := rfl

@[simp] theorem run_cons (actor : Actor γ τ α) (c : Call α) (calls : List (Call α)) :
    actor.run (c :: calls) = (actor.call c).toActor.run calls := rfl

theorem run_append (actor : Actor γ τ α) (calls more : List (Call α)) :
    actor.run (calls ++ more) = (actor.run calls).run more :=
  List.foldl_append

/-- What survives every change of the aspects that the called blocks have survives a run. -/
theorem run_keeps_of {P : τ → Prop} (calls : List (Call α))
    (keeps : ∀ c ∈ calls, ∀ aspect ∈ c.block.aspects, Movable.Keeps P aspect)
    {actor : Actor γ τ α} (h : P actor.target) : P (actor.run calls).target := by
  induction calls generalizing actor with
  | nil => exact h
  | cons c calls ih =>
    rw [run_cons]
    apply ih fun d hd => keeps d (List.mem_cons_of_mem c hd)
    exact Block.tick_keeps (keeps c List.mem_cons_self) c.moment h

theorem run_keeps {P : τ → Prop} (keeps : ∀ aspect, Movable.Keeps P aspect)
    (calls : List (Call α)) {actor : Actor γ τ α} (h : P actor.target) :
    P (actor.run calls).target :=
  run_keeps_of calls (fun _ _ aspect _ => keeps aspect) h

theorem run_field (actor : Actor γ τ α) (calls : List (Call α)) :
    (actor.run calls).palette.field = actor.palette.field := by
  induction calls generalizing actor with
  | nil => rfl
  | cons c calls ih => rw [run_cons, ih, call_field]

end Actor

end StageMotion
