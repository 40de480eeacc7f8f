import Mathlib.Data.List.Sort
import Sophia.Engine.HitTest
import Sophia.Engine.LayoutTransaction

/-! Frames: what is planned from the layers, and how the plan is checked and replayed. -/
namespace Sophia.Engine

open Protocol

structure HeadlessOutput where
  id : OutputId
  size : Size
  scale : UInt32

structure HeadlessEngine where
  output : HeadlessOutput

structure FramePlanRequest where
  output : OutputId
  frameSerial : UInt64

inductive RenderCommandKind where
  | blit
  | clear
  | composite
  deriving DecidableEq

structure RenderCommand where
  kind : RenderCommandKind
  source : Option SurfaceId
  output : OutputId
  target : Region
  clip : Option Region
  transform : Transform
  alpha : ℚ

structure FrameSnapshot where
  output : OutputId
  outputSize : Size
  outputScale : UInt32
  frameSerial : UInt64
  layers : List LayerSnapshot
  commands : List RenderCommand
  damage : Region

structure ReplayStep where
  commandIndex : ℕ
  kind : RenderCommandKind
  source : Option SurfaceId
  target : Region
  clip : Option Region
  transform : Transform
  alpha : ℚ

structure ReplayReport where
  output : OutputId
  outputSize : Size
  outputScale : UInt32
  frameSerial : UInt64
  steps : List ReplayStep
  damage : Region

/-- Where a layer is drawn. -/
def drawTarget (layer : LayerSnapshot) : Region :=
  match layer.crop with
  | none => .single layer.geometry
  | some crop => .single crop

/-- The layer is rendered, and somewhere. -/
def isDrawn (layer : LayerSnapshot) : Bool :=
  shouldRender layer && !(drawTarget layer).rects.isEmpty

def drawCommand (output : OutputId) (layer : LayerSnapshot) : RenderCommand where
  kind := .blit
  source := some layer.surface
  output := output
  target := drawTarget layer
  clip := layer.crop.map .single
  transform := layer.transform
  alpha := layer.opacity

/-- The step a command is replayed as. -/
def replayStep (command : RenderCommand) (commandIndex : ℕ) : ReplayStep where
  commandIndex := commandIndex
  kind := command.kind
  source := command.source
  target := command.target
  clip := command.clip
  transform := command.transform
  alpha := command.alpha

/-- The layers bottom to top, those of equal rank as they came. -/
def stackOrder (layers : List LayerSnapshot) : List LayerSnapshot :=
  layers.mergeSort fun a b => a.stackRank ≤ b.stackRank

namespace HeadlessEngine

def validateOutput (engine : HeadlessEngine) (output : OutputId) : Except EngineError Unit :=
  if output.isValid && output == engine.output.id then .ok () else .error .invalidOutput

/-- One round of the planning loop: the commands and the damage so far, and the next layer. -/
def planLayer (output : OutputId) (plan : List RenderCommand × Region) (layer : LayerSnapshot) :
    Except EngineError (List RenderCommand × Region) :=
  if !layer.surface.isValid then .error .invalidSurface
  else if !shouldRender layer then .ok plan
  else if (drawTarget layer).rects.isEmpty then .ok plan
  else .ok (plan.1 ++ [drawCommand output layer], plan.2.extend layer.damage)

def planFrame (engine : HeadlessEngine) (request : FramePlanRequest)
    (layers : List LayerSnapshot) : Except EngineError FrameSnapshot := do
  engine.validateOutput request.output
  let layers := stackOrder layers
  let (commands, damage) ← layers.foldlM (planLayer request.output) ([], .empty)
  return {
    output := request.output
    outputSize := engine.output.size
    outputScale := engine.output.scale
    frameSerial := request.frameSerial
    layers, commands, damage }

/-- One round of the replay loop. -/
def replayCommand (frame : FrameSnapshot) (steps : List ReplayStep)
    (command : RenderCommand × ℕ) : Except EngineError (List ReplayStep) :=
  if command.1.output ≠ frame.output then .error .invalidOutput
  else if command.1.source.any fun source =>
      !source.isValid || !(frame.layers.map (·.surface)).contains source then
    .error .invalidSurface
  else .ok (steps ++ [replayStep command.1 command.2])

def replayFrame (engine : HeadlessEngine) (frame : FrameSnapshot) :
    Except EngineError ReplayReport := do
  engine.validateOutput frame.output
  if frame.outputSize ≠ engine.output.size ∨ frame.outputScale ≠ engine.output.scale then
    throw .invalidFrame
  let steps ← frame.commands.zipIdx.foldlM (replayCommand frame) []
  return {
    output := frame.output
    outputSize := frame.outputSize
    outputScale := frame.outputScale
    frameSerial := frame.frameSerial
    steps
    damage := frame.damage }

end HeadlessEngine

section Plan

variable {engine : HeadlessEngine} {request : FramePlanRequest} {layers : List LayerSnapshot}
  {frame : FrameSnapshot} {output : OutputId} {layer : LayerSnapshot}

theorem validateOutput_eq_ok {u : Unit} :
    engine.validateOutput output = .ok u ↔ output.isValid = true ∧ output = engine.output.id := by
  unfold HeadlessEngine.validateOutput
  split
  · rename_i h
    simpa using h
  · rename_i h
    simpa using h

theorem stackOrder_perm (layers : List LayerSnapshot) : (stackOrder layers).Perm layers :=
  List.mergeSort_perm _ _

theorem mem_stackOrder : layer ∈ stackOrder layers ↔ layer ∈ layers :=
  (stackOrder_perm layers).mem_iff

/-- The damage of the drawn layers, in order. -/
def planDamage (layers : List LayerSnapshot) (damage : Region) : Region :=
  (layers.filter isDrawn).foldl (fun damage layer => damage.extend layer.damage) damage

/-- The loop plans one command for each drawn layer, and stops at an invalid surface. -/
theorem foldlM_planLayer (layers : List LayerSnapshot) (plan : List RenderCommand × Region) :
    layers.foldlM (HeadlessEngine.planLayer output) plan =
      if ∀ layer ∈ layers, layer.surface.isValid = true then
        .ok (plan.1 ++ (layers.filter isDrawn).map (drawCommand output), planDamage layers plan.2)
      else .error .invalidSurface := by
  induction layers generalizing plan with
  | nil => simp [planDamage, pure, Except.pure]
  | cons layer layers ih =>
    rw [List.foldlM_cons]
    unfold HeadlessEngine.planLayer
    cases hvalid : layer.surface.isValid with
    | false =>
      simp [hvalid, bind, Except.bind]
    | true =>
      have hall : (∀ l ∈ layer :: layers, l.surface.isValid = true) ↔
          ∀ l ∈ layers, l.surface.isValid = true := by simp [hvalid]
      cases hrender : shouldRender layer with
      | false =>
        have hdrawn : isDrawn layer = false := by simp [isDrawn, hrender]
        have hskip := ih plan
        simp only [Bool.not_true, Bool.false_eq_true, if_false, Bool.not_false, if_true, hall,
          planDamage, List.filter_cons, hdrawn]
        exact hskip
      | true =>
        cases hempty : (drawTarget layer).rects.isEmpty with
        | true =>
          have hdrawn : isDrawn layer = false := by simp [isDrawn, hempty]
          have hskip := ih plan
          simp only [Bool.not_true, Bool.false_eq_true, if_false, if_true, hall, planDamage,
            List.filter_cons, hdrawn]
          exact hskip
        | false =>
          have hdrawn : isDrawn layer = true := by simp [isDrawn, hrender, hempty]
          have hdraw := ih (plan.1 ++ [drawCommand output layer], plan.2.extend layer.damage)
          simp only [List.append_assoc, List.singleton_append] at hdraw
          simp only [Bool.not_true, Bool.false_eq_true, if_false, hall, planDamage,
            List.filter_cons, hdrawn, if_true, List.map_cons, List.foldl_cons]
          exact hdraw

/-- What a request must name for its frame to be planned. -/
structure Plannable (engine : HeadlessEngine) (request : FramePlanRequest)
    (layers : List LayerSnapshot) : Prop where
  outputValid : request.output.isValid = true
  ownOutput : request.output = engine.output.id
  surfacesValid : ∀ layer ∈ layers, layer.surface.isValid = true

/-- The frame of the drawn layers, bottom to top. -/
def plannedFrame (engine : HeadlessEngine) (request : FramePlanRequest)
    (layers : List LayerSnapshot) : FrameSnapshot where
  output := request.output
  outputSize := engine.output.size
  outputScale := engine.output.scale
  frameSerial := request.frameSerial
  layers := stackOrder layers
  commands := ((stackOrder layers).filter isDrawn).map (drawCommand request.output)
  damage := planDamage (stackOrder layers) .empty

theorem planFrame_eq_ok :
    engine.planFrame request layers = .ok frame ↔
      Plannable engine request layers ∧ frame = plannedFrame engine request layers := by
  have hvalid : (∀ layer ∈ stackOrder layers, layer.surface.isValid = true) ↔
      ∀ layer ∈ layers, layer.surface.isValid = true := by
    simp only [mem_stackOrder]
  unfold HeadlessEngine.planFrame
  simp only [Fallible.bind_eq_ok, foldlM_planLayer]
  constructor
  · rintro ⟨u, houtput, hplan⟩
    obtain ⟨hoid, hown⟩ := validateOutput_eq_ok.mp houtput
    obtain ⟨plan, hloop, hframe⟩ := hplan
    split at hloop
    · rename_i hall
      cases hloop
      exact ⟨⟨hoid, hown, hvalid.mp hall⟩, (Fallible.pure_eq_ok.mp hframe).symm⟩
    · cases hloop
  · rintro ⟨⟨hoid, hown, hall⟩, rfl⟩
    refine ⟨(), validateOutput_eq_ok.mpr ⟨hoid, hown⟩, ?_⟩
    exact ⟨_, if_pos (hvalid.mpr hall), rfl⟩

/-- Commands on the frame's own output, of surfaces the frame has, are all replayed. -/
theorem foldlM_replayCommand {commands : List RenderCommand}
    (h : ∀ command ∈ commands, command.output = frame.output ∧
      ∀ source ∈ command.source, source.isValid = true ∧ source ∈ frame.layers.map (·.surface)) :
    commands.zipIdx.foldlM (HeadlessEngine.replayCommand frame) [] =
      .ok (commands.zipIdx.map fun (command, index) => replayStep command index) := by
  have hround : ∀ indexed ∈ commands.zipIdx, ∀ (steps : List ReplayStep),
      HeadlessEngine.replayCommand frame steps indexed =
        .ok (steps ++ [replayStep indexed.1 indexed.2]) := by
    intro indexed hindexed steps
    obtain ⟨houtput, hsource⟩ := h indexed.1 (List.fst_mem_of_mem_zipIdx hindexed)
    unfold HeadlessEngine.replayCommand
    rw [if_neg (not_not.mpr houtput), if_neg]
    cases hs : indexed.1.source with
    | none => simp
    | some source =>
      obtain ⟨hvalid, hmem⟩ := hsource source hs
      simpa [hvalid] using hmem
  rw [Fallible.foldlM_eq_foldl [] hround]
  congr 1
  have hfold : ∀ (xs : List (RenderCommand × ℕ)) (steps : List ReplayStep),
      xs.foldl (fun steps indexed => steps ++ [replayStep indexed.1 indexed.2]) steps =
        steps ++ xs.map fun (command, index) => replayStep command index := by
    intro xs
    induction xs with
    | nil => simp
    | cons x xs ih =>
      intro steps
      rw [List.foldl_cons, ih]
      simp
  exact hfold _ []

/-- The report of a planned frame. -/
def plannedReport (frame : FrameSnapshot) : ReplayReport where
  output := frame.output
  outputSize := frame.outputSize
  outputScale := frame.outputScale
  frameSerial := frame.frameSerial
  steps := frame.commands.zipIdx.map fun (command, index) => replayStep command index
  damage := frame.damage

theorem replayFrame_plannedFrame (h : Plannable engine request layers) :
    engine.replayFrame (plannedFrame engine request layers) =
      .ok (plannedReport (plannedFrame engine request layers)) := by
  have houtput : engine.validateOutput request.output = .ok () :=
    validateOutput_eq_ok.mpr ⟨h.outputValid, h.ownOutput⟩
  have hcommands : ∀ command ∈ (plannedFrame engine request layers).commands,
      command.output = (plannedFrame engine request layers).output ∧
        ∀ source ∈ command.source, source.isValid = true ∧
          source ∈ (plannedFrame engine request layers).layers.map (·.surface) := by
    intro command hcommand
    obtain ⟨layer, hlayer, rfl⟩ := List.mem_map.mp hcommand
    have hmem := (List.mem_filter.mp hlayer).1
    refine ⟨rfl, ?_⟩
    rintro source ⟨⟩
    exact ⟨h.surfacesValid layer (mem_stackOrder.mp hmem), List.mem_map_of_mem hmem⟩
  unfold HeadlessEngine.replayFrame
  rw [Fallible.bind_eq_ok]
  refine ⟨(), houtput, ?_⟩
  rw [if_neg (by simp [plannedFrame]), foldlM_replayCommand hcommands]
  rfl

/-- A frame that is planned is always replayed: one step for each layer that is rendered
somewhere, bottom to top and layers of equal rank as they came; the damage is that of these
layers. Only an output that is not the engine's or an invalid surface keeps a frame from being
planned. -/
theorem planned_frame_replays (engine : HeadlessEngine) (request : FramePlanRequest)
    (layers : List LayerSnapshot) :
    ((∃ e, engine.planFrame request layers = .error e) ∧ ¬ Plannable engine request layers) ∨
      ∃ frame report, engine.planFrame request layers = .ok frame ∧
        engine.replayFrame frame = .ok report ∧ Plannable engine request layers ∧
        report.steps = ((stackOrder layers).filter isDrawn).zipIdx.map (fun (layer, index) =>
          replayStep (drawCommand request.output layer) index) ∧
        report.damage = planDamage (stackOrder layers) .empty ∧
        report.frameSerial = request.frameSerial := by
  by_cases h : Plannable engine request layers
  · refine .inr ⟨_, _, planFrame_eq_ok.mpr ⟨h, rfl⟩, replayFrame_plannedFrame h, h, ?_, rfl, rfl⟩
    simp [plannedReport, plannedFrame, List.zipIdx_map]
  · refine .inl ⟨?_, h⟩
    cases hplan : engine.planFrame request layers with
    | error e => exact ⟨e, rfl⟩
    | ok frame => exact absurd (planFrame_eq_ok.mp hplan).1 h

/-- The step paints the point. -/
def ReplayStep.paints (point : Point) (step : ReplayStep) : Bool :=
  step.target.rects.any fun rect => rectContainsPoint rect point

theorem takesPoint_of_plain {point : Point} (hvalid : layer.surface.isValid = true)
    (hcrop : layer.crop = none) :
    TakesPoint point layer =
      (isDrawn layer && (drawTarget layer).rects.any fun rect => rectContainsPoint rect point) := by
  have htarget : drawTarget layer = .single layer.geometry := by simp [drawTarget, hcrop]
  unfold TakesPoint isDrawn
  rw [hvalid, htarget]
  cases hrender : shouldRender layer with
  | false => simp
  | true =>
    have hfilled : layer.geometry.isEmpty = false := by
      simp only [shouldRender, Bool.and_eq_true, Bool.not_eq_true'] at hrender
      exact hrender.1.2
    simp [Region.single, hfilled]

/-- The last element of a list with a property of what it shows, and the surface it shows. -/
theorem find?_shown {β : Type} (l : List β) (shown : β → Option SurfaceId × Region)
    (p : Option SurfaceId × Region → Bool) :
    (l.reverse.find? fun x => p (shown x)).bind (fun x => (shown x).1) =
      ((l.map shown).reverse.find? p).bind (·.1) := by
  rw [← List.map_reverse, List.find?_map]
  show (l.reverse.find? (p ∘ shown)).bind _ = _
  cases l.reverse.find? (p ∘ shown) <;> rfl

theorem map_replayStep (commands : List RenderCommand) :
    (commands.zipIdx.map fun (command, index) => replayStep command index).map
        (fun step => (step.source, step.target)) =
      commands.map fun command => (command.source, command.target) := by
  have hfst : commands.zipIdx.map Prod.fst = commands := List.zipIdx_map_fst 0 commands
  conv_rhs => rw [← hfst]
  rw [List.map_map, List.map_map]
  rfl

theorem stackOrder_sorted (layers : List LayerSnapshot) :
    (stackOrder layers).Pairwise fun a b => decide (a.stackRank ≤ b.stackRank) = true :=
  List.pairwise_mergeSort
    (fun a b c hab hbc => by
      rw [decide_eq_true_eq] at hab hbc ⊢
      exact UInt32.le_trans hab hbc)
    (fun a b => by
      rw [Bool.or_eq_true, decide_eq_true_eq, decide_eq_true_eq]
      exact UInt32.le_total _ _) layers

theorem hitTest_stackOrder {event : InputEventPacket} :
    hitTestSceneSurfaceForInput event (stackOrder layers) =
      hitTestSceneSurfaceForInput event layers := by
  have hsame : (stackOrder layers).mergeSort (fun a b => decide (a.stackRank ≤ b.stackRank)) =
      layers.mergeSort fun a b => decide (a.stackRank ≤ b.stackRank) :=
    List.mergeSort_of_pairwise (stackOrder_sorted layers)
  unfold hitTestSceneSurfaceForInput
  rw [hsame]

/-- Over plain layers an event goes to the surface of the last step that paints its point. -/
theorem hit_reaches_top_step {event : InputEventPacket} {point : Point}
    (h : engine.planFrame request layers = .ok frame)
    (hplain : ∀ layer ∈ layers, layer.crop = none ∧ layer.transform = .identity)
    (hp : event.globalPosition = some point) :
    ∃ report, engine.replayFrame frame = .ok report ∧
      (hitTestSceneSurfaceForInput event layers).targetSurface =
        (report.steps.reverse.find? (·.paints point)).bind (·.source) := by
  obtain ⟨hplannable, rfl⟩ := planFrame_eq_ok.mp h
  refine ⟨_, replayFrame_plannedFrame hplannable, ?_⟩
  have hidentity : ∀ layer ∈ stackOrder layers, layer.transform = .identity := by
    intro layer hlayer
    exact (hplain layer (mem_stackOrder.mp hlayer)).2
  have hsorted : (stackOrder layers).Pairwise fun a b => a.stackRank ≤ b.stackRank :=
    (stackOrder_sorted layers).imp fun hle => by simpa using hle
  -- Both sides look for the last drawn layer whose target contains the point.
  let contains (shown : Option SurfaceId × Region) : Bool :=
    shown.2.rects.any fun rect => rectContainsPoint rect point
  have hsteps := find?_shown (plannedReport (plannedFrame engine request layers)).steps
    (fun step => (step.source, step.target)) contains
  have hdrawn := find?_shown ((stackOrder layers).filter isDrawn)
    (fun layer => (some layer.surface, drawTarget layer)) contains
  have hshown : (plannedReport (plannedFrame engine request layers)).steps.map
      (fun step => (step.source, step.target)) = ((stackOrder layers).filter isDrawn).map
        fun layer => (some layer.surface, drawTarget layer) := by
    refine (map_replayStep _).trans ?_
    simp only [plannedFrame, List.map_map]
    rfl
  have htakes : (stackOrder layers).reverse.find? (TakesPoint point) =
      ((stackOrder layers).filter isDrawn).reverse.find? fun layer =>
        contains (some layer.surface, drawTarget layer) := by
    rw [← List.filter_reverse, List.find?_filter]
    refine List.find?_congr fun layer hlayer => ?_
    have hmem := mem_stackOrder.mp (List.mem_reverse.mp hlayer)
    rw [takesPoint_of_plain (hplannable.surfacesValid layer hmem) (hplain layer hmem).1,
      Bool.decide_and, Bool.decide_eq_true, Bool.decide_eq_true]
  rw [← hitTest_stackOrder, hitTest_target hp hidentity hsorted, htakes]
  rw [hshown] at hsteps
  refine Eq.trans ?_ (hdrawn.trans hsteps.symm)
  rw [Option.map_eq_bind]
  rfl

/-- A plain window of eight by eight at the origin. -/
def plainLayer (surface : SurfaceId) (stackRank : UInt32) : LayerSnapshot where
  surface := surface
  authorityLocalId := none
  namespaceId := none
  stackRank := stackRank
  geometry := ⟨0, 0, 8, 8⟩
  source := .cpuBuffer 1
  damage := .empty
  opacity := 1
  crop := none
  transform := .identity
  generation := 1
  resizeSync := .implicitOnly

/-- Of two windows at one place the upper one is hit, and is painted last. -/
theorem hit_reaches_top_step_two :
    let engine : HeadlessEngine := ⟨⟨⟨1⟩, ⟨8, 8⟩, 1⟩⟩
    let layers := [plainLayer ⟨1, 1⟩ 2, plainLayer ⟨2, 1⟩ 1]
    ∃ report, engine.replayFrame (plannedFrame engine ⟨⟨1⟩, 7⟩ layers) = .ok report ∧
      (hitTestSceneSurfaceForInput ⟨1, some ⟨4, 4⟩⟩ layers).targetSurface =
        (report.steps.reverse.find? (·.paints ⟨4, 4⟩)).bind (·.source) := by
  intro engine layers
  have hplain : ∀ layer ∈ layers, layer.crop = none ∧ layer.transform = .identity ∧
      layer.surface.isValid = true := by
    intro layer hlayer
    rcases List.mem_pair.mp hlayer with rfl | rfl <;> exact ⟨rfl, rfl, rfl⟩
  refine hit_reaches_top_step (planFrame_eq_ok.mpr ⟨⟨rfl, rfl, ?_⟩, rfl⟩) ?_ rfl
  · intro layer hlayer
    exact (hplain layer hlayer).2.2
  · intro layer hlayer
    exact ⟨(hplain layer hlayer).1, (hplain layer hlayer).2.1⟩

end Plan
end Sophia.Engine
