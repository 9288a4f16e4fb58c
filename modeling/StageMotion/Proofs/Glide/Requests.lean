import Mathlib.Data.Set.Card
import StageMotion.Slots

/-!
# Requests to the slots

Whoever runs a program makes four kinds of requests to the slots: a tick of the glide at a site, a
glide block that is lent the slot of a site, to abandon a site, and to clear all sites. Targets,
palettes and moments come with each request and may be anything. `Service` is the store together
with all that the requests left besides: how they were answered, the journal of their notes, and how
many gestures were cleared away. What one request does to the slot of a site is said in terms of the
answer alone: `Request.get?_serve` and `Request.isSome_serve`.

A gesture is under way at a site if the latest tick at the site is to be continued, and the site was
not given up since (`Underway`): a property of the answers alone, in which the store does not occur.
After every run of requests the store holds a glide for exactly the sites at which one is under way
(`Service.holds_run`); so what the store says of a site, how many glides it counts, and what it
answers if the site is abandoned, can be read off the answers before (`gesture_exists_iff`).
-/

namespace StageMotion

section

variable {γ τ α : Type} [Scalar α] [Draws γ α] [Movable τ α]

/-- Where a glide block leads. -/
inductive Way (α : Type)
  | toXY (x y : α)
  | toGoal (goal : Destination)

/-- The glide block that leads some way in some time. -/
def Way.block (way : Way α) (seconds : α) : Block α :=
  match way with
  | toXY x y => .glideToXY seconds x y
  | toGoal goal => .glideTo seconds goal

/-- A request to the slots. -/
inductive Request (α : Type) [Scalar α] : Type 1
  | tick {τ : Type} [Movable τ α] (site : CallSite) (now seconds : α) (stop : Vec2 α) (target : τ)
  | lend {γ τ : Type} [Draws γ α] [Movable τ α] (site : CallSite) (moment : Moment α)
    (palette : Palette γ α) (target : τ) (way : Way α) (seconds : α)
  | abandon (site : CallSite)
  | clear

/-- How a request was answered. -/
inductive Event
  | ticked (site : CallSite) (progress : Progress)
  | abandoned (site : CallSite) (wasActive : Bool)
  | cleared
  deriving DecidableEq, Repr

/-- The event concerns a site. -/
def Event.At (site : CallSite) : Event → Prop
  | ticked other _ | abandoned other _ => other = site
  | cleared => True

/-- What a request leaves. -/
structure Served (α : Type) where
  slots : Slots α
  event : Event
  notes : List (Note α)

namespace Request

/-- Serves a request from a store. -/
def serve (slots : Slots α) : Request α → Served α
  | tick site now seconds stop target =>
    let (slots, ticked) := slots.tick site now seconds stop target
    ⟨slots, .ticked site ticked.progress, ticked.notes⟩
  | lend site moment palette target way seconds =>
    let (slots, turn) := slots.lend site moment palette target (way.block seconds)
    ⟨slots, .ticked site turn.progress, turn.notes⟩
  | abandon site =>
    let (slots, left) := slots.abandon site
    ⟨slots, .abandoned site left.wasActive, left⟩
  | clear => ⟨slots.clear, .cleared, []⟩

/-- The number of gestures that a request clears away. -/
def cleared (slots : Slots α) : Request α → Nat
  | clear => slots.size
  | tick .. | lend .. | abandon _ => 0

end Request

/-- A store and what the requests to it left. -/
structure Service (α : Type) where
  slots : Slots α
  /-- The answers, the latest first. -/
  history : List Event
  /-- The notes, the latest last. -/
  journal : List (Note α)
  /-- How many gestures were cleared away. -/
  cleared : Nat

namespace Service

/-- An empty store to which nothing was requested yet. -/
def fresh : Service α := ⟨.empty, [], [], 0⟩

/-- The service after one more request. -/
def serve (service : Service α) (request : Request α) : Service α :=
  let served := request.serve service.slots
  { slots := served.slots
    history := served.event :: service.history
    journal := service.journal ++ served.notes
    cleared := service.cleared + request.cleared service.slots }

/-- The service after some requests, one after another. -/
def run (requests : List (Request α)) : Service α := requests.foldl serve fresh

/-- What is so before the first request, and stays so with every request, is so after every run. -/
theorem run_induction {P : Service α → Prop} (hfresh : P fresh)
    (hserve : ∀ service request, P service → P (service.serve request))
    (requests : List (Request α)) : P (run requests) := by
  induction requests using List.reverseRecOn with
  | nil => exact hfresh
  | append_singleton requests request ih =>
    have hrun : run (requests ++ [request]) = (run requests).serve request := by simp [run]
    rw [hrun]
    exact hserve _ request ih

end Service

/-! ## Slots and progress -/

/-- A tick leaves its slot filled exactly if it continues. -/
theorem Glide.isSome_tick (slot : Option (Glide α)) (now seconds : α) (stop : Vec2 α)
    (target : τ) : (Glide.tick slot now seconds stop target).slot.isSome ↔
      (Glide.tick slot now seconds stop target).progress = .continuing := by
  cases slot with
  | none =>
    simp only [tick, launch]
    split <;> simp
  | some glide =>
    simp only [tick, proceed]
    split <;> simp

/-- A glide block leaves its slot filled exactly if it continues. -/
theorem Way.isSome_tick (way : Way α) (seconds : α) (moment : Moment α) (actor : Actor γ τ α) :
    ((way.block seconds).tick moment actor).slot.isSome ↔
      ((way.block seconds).tick moment actor).progress = .continuing := by
  cases way with
  | toXY x y => exact Glide.isSome_tick actor.slot moment.now seconds ⟨x, y⟩ actor.target
  | toGoal goal =>
    simp only [block, Block.tick]
    split
    · exact Glide.isSome_tick actor.slot moment.now seconds _ actor.target
    · simp [Actor.rest]

/-! ## One request -/

namespace Request

/-- A request leaves alone the slots of the sites that its answer does not concern. -/
theorem get?_serve (slots : Slots α) (request : Request α) {site : CallSite}
    (h : ¬ (request.serve slots).event.At site) :
    (request.serve slots).slots.get? site = slots.get? site := by
  cases request with
  | tick other | lend other | abandon other =>
    have hother : other ≠ site := h
    simp [serve, Slots.fst_tick, Slots.fst_lend, Slots.fst_abandon, Slots.get?_put, hother]
  | clear => exact absurd trivial h

/-- The slot of a site that the answer concerns is filled exactly if the answer is a tick that
continues. -/
theorem isSome_serve (slots : Slots α) (request : Request α) {site : CallSite}
    (h : (request.serve slots).event.At site) :
    ((request.serve slots).slots.get? site).isSome ↔
      (request.serve slots).event = .ticked site .continuing := by
  cases request with
  | tick other now seconds stop target =>
    obtain rfl : other = site := h
    simp [serve, Slots.get?_tick, Slots.snd_tick, Glide.isSome_tick]
  | lend other moment palette target way seconds =>
    obtain rfl : other = site := h
    simp [serve, Slots.lend, Slots.take, Slots.get?_put, Way.isSome_tick]
  | abandon other =>
    obtain rfl : other = site := h
    simp [serve, Slots.fst_abandon, Slots.get?_put]
  | clear => simp [serve, Slots.clear]

end Request

end

/-! ## Histories -/

/-- The latest tick at the site is to be continued, and no later answer concerns the site. Histories
have the latest answer first. -/
def Underway (history : List Event) (site : CallSite) : Prop :=
  ∃ since before, history = since ++ .ticked site .continuing :: before ∧
    ∀ event ∈ since, ¬ event.At site

/-- Whoever abandoned a site was told whether a gesture was under way there. -/
def Truthful : List Event → Prop
  | [] => True
  | .abandoned site wasActive :: before => (wasActive ↔ Underway before site) ∧ Truthful before
  | .ticked .. :: before | .cleared :: before => Truthful before

theorem not_underway_nil (site : CallSite) : ¬ Underway [] site := by
  rintro ⟨since, before, h, -⟩
  simp at h

/-- An answer that concerns the site decides alone whether a gesture is under way. -/
theorem underway_cons_of_at {event : Event} {site : CallSite} (h : event.At site)
    (history : List Event) :
    Underway (event :: history) site ↔ event = .ticked site .continuing := by
  constructor
  · rintro ⟨since, before, hsplit, hsince⟩
    cases since with
    | nil => exact (List.cons.inj hsplit).1
    | cons first since =>
      obtain rfl := (List.cons.inj hsplit).1
      exact absurd h (hsince event List.mem_cons_self)
  · rintro rfl
    exact ⟨[], history, rfl, by simp⟩

/-- An answer that does not concern the site changes nothing. -/
theorem underway_cons_of_not_at {event : Event} {site : CallSite} (h : ¬ event.At site)
    (history : List Event) : Underway (event :: history) site ↔ Underway history site := by
  constructor
  · rintro ⟨since, before, hsplit, hsince⟩
    cases since with
    | nil =>
      obtain rfl := (List.cons.inj hsplit).1
      exact absurd rfl h
    | cons first since =>
      exact ⟨since, before, (List.cons.inj hsplit).2,
        fun event he => hsince event (List.mem_cons_of_mem _ he)⟩
  · rintro ⟨since, before, rfl, hsince⟩
    refine ⟨event :: since, before, rfl, fun other hother => ?_⟩
    rcases List.mem_cons.mp hother with rfl | hother
    · exact h
    · exact hsince other hother

/-! ## The store and the history -/

variable {α : Type}

namespace Slots

theorem mem_glides_iff (slots : Slots α) (site : CallSite) :
    site ∈ slots.glides ↔ (slots.get? site).isSome :=
  Std.ExtTreeMap.mem_iff_isSome_getElem?

/-- The store counts the sites whose slot is filled. -/
theorem size_eq_ncard (slots : Slots α) :
    slots.size = {site | (slots.get? site).isSome}.ncard := by
  have h : {site | (slots.get? site).isSome} = (slots.glides.keys.toFinset : Set CallSite) := by
    ext site
    rw [Set.mem_ofPred_eq, Finset.mem_coe, List.mem_toFinset, Std.ExtTreeMap.mem_keys,
      mem_glides_iff]
  rw [h, Set.ncard_coe_finset, List.toFinset_card_of_nodup Std.ExtTreeMap.nodup_keys,
    Std.ExtTreeMap.length_keys]
  rfl

theorem isEmpty_iff (slots : Slots α) : slots.isEmpty ↔ ∀ site, ¬ (slots.get? site).isSome := by
  rw [isEmpty, Std.ExtTreeMap.isEmpty_iff, Std.ExtTreeMap.eq_empty_iff_forall_not_mem]
  simp only [mem_glides_iff]

end Slots

namespace Service

/-- The slot of a site is filled exactly if a gesture is under way there. -/
def Holds (service : Service α) : Prop :=
  ∀ site, (service.slots.get? site).isSome ↔ Underway service.history site

theorem holds_fresh : (fresh : Service α).Holds := by
  simp [Holds, fresh, not_underway_nil]

variable [Scalar α]

theorem Holds.serve {service : Service α} (holds : service.Holds) (request : Request α) :
    (service.serve request).Holds := by
  intro site
  change ((request.serve service.slots).slots.get? site).isSome ↔
    Underway ((request.serve service.slots).event :: service.history) site
  by_cases hat : (request.serve service.slots).event.At site
  · rw [request.isSome_serve service.slots hat, underway_cons_of_at hat]
  · rw [request.get?_serve service.slots hat, underway_cons_of_not_at hat, holds site]

theorem holds_run (requests : List (Request α)) : (run requests).Holds :=
  run_induction holds_fresh (fun _ request holds => holds.serve request) requests

/-- Whoever abandons a site is told the truth as long as the store holds what is under way. -/
theorem Holds.truthful_serve {service : Service α} (holds : service.Holds)
    (truthful : Truthful service.history) (request : Request α) :
    Truthful (service.serve request).history := by
  cases request with
  | abandon site => exact ⟨holds site, truthful⟩
  | tick | lend | clear => exact truthful

theorem truthful_run (requests : List (Request α)) : Truthful (run requests).history := by
  have h : (run requests).Holds ∧ Truthful (run requests).history := by
    apply run_induction (P := fun service => service.Holds ∧ Truthful service.history)
    · exact ⟨holds_fresh, trivial⟩
    · rintro service request ⟨holds, truthful⟩
      exact ⟨holds.serve request, holds.truthful_serve truthful request⟩
  exact h.2

end Service

variable [Scalar α]

/-- **Gesture state exists exactly while a gesture is under way**: after every run of requests, a
site is active, and has an entry, and is one that it tells of if it is abandoned, exactly if a
gesture is under way there; and so it was each time a site was abandoned. The store counts the sites
at which one is under way, and is empty if there are none. -/
theorem gesture_exists_iff (requests : List (Request α)) :
    let service := Service.run requests
    (∀ site, (service.slots.isActive site ↔ Underway service.history site) ∧
      ((service.slots.get? site).isSome ↔ Underway service.history site) ∧
      ((service.slots.abandon site).2.wasActive ↔ Underway service.history site)) ∧
    Truthful service.history ∧
    service.slots.size = {site | Underway service.history site}.ncard ∧
    (service.slots.isEmpty ↔ ∀ site, ¬ Underway service.history site) := by
  intro service
  have holds : service.Holds := Service.holds_run requests
  have hsites : {site | (service.slots.get? site).isSome} =
      {site | Underway service.history site} := Set.ext holds
  refine ⟨fun site => ⟨holds site, holds site, holds site⟩, Service.truthful_run requests, ?_, ?_⟩
  · rw [Slots.size_eq_ncard, hsites]
  · rw [Slots.isEmpty_iff]
    exact forall_congr' fun site => not_congr (holds site)

/-- Two sites become active. The first is abandoned and no longer active; the third never was. -/
example :
    let cat : Sprite Float := .create "cat" none .standard
    let tick (site : UInt64) (now : Float) : Request Float :=
      .tick ⟨site⟩ now 1.0 ⟨60.0, -20.0⟩ cat
    let service := Service.run [tick 1 0.0, tick 2 10.0, .abandon ⟨1⟩, .abandon ⟨3⟩]
    [1, 2, 3].map (fun site => service.slots.isActive ⟨site⟩) = [false, true, false] ∧
      service.slots.size = 1 ∧
      service.history = [.abandoned ⟨3⟩ false, .abandoned ⟨1⟩ true, .ticked ⟨2⟩ .continuing,
        .ticked ⟨1⟩ .continuing] := by
  decide +kernel

end StageMotion
