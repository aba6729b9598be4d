import Shipwright.Graph.Schedule
import Shipwright.Ship.Stage
import Shipwright.Ship.Design
import Shipwright.Ship.Edit
import Shipwright.Ship.Profile
import Shipwright.Ship.Settings

/-!
# Ships under construction

An assembly is a ship while it is worked on: the elements that are placed on it,
the graph of stages that turns them into a mesh, and the history of edits. A
change of either the elements or the graph marks the compiled order as stale,
and a change that finds nothing to change leaves everything as it is.
-/

namespace Shipwright

/-- A ship under construction. -/
structure Assembly (α : Type) where
  /-- The stages that assemble the mesh. -/
  graph : Graph Stage (Mesh α)
  /-- What is placed on the ship. -/
  elements : Elements α
  /-- The edits made so far, oldest first. -/
  history : List (Edit α)

namespace Assembly

variable {α : Type}

/-- The name of every assembly graph. -/
def graphName : String := "Ship Hull"

/-- An assembly without stages, elements and history. -/
def empty : Assembly α := ⟨.empty graphName, .empty, []⟩

instance : Inhabited (Assembly α) := ⟨empty⟩

/-- Whether the graph has been compiled since the last change. -/
def compiled (a : Assembly α) : Bool := a.graph.compiled

/-- The assembly with other elements and a stale order. -/
def withElements (a : Assembly α) (elements : Elements α) : Assembly α :=
  { a with elements, graph := a.graph.invalidate }

/-- The assembly with an edit recorded. -/
def record (a : Assembly α) (e : Edit α) : Assembly α := { a with history := a.history ++ [e] }

section Editing

variable {ε : Type} [Element ε] [Fitting α ε]

/-- The assembly with an element added, and the number of that element. -/
def add (a : Assembly α) (e : ε) : Assembly α × ElementId :=
  let (elements, id) := a.elements.add e
  (a.withElements elements, id)

/-- The assembly without the element of a given number, and that element. -/
def remove (ε : Type) [Element ε] [Fitting α ε] (a : Assembly α) (id : ElementId) :
    Assembly α × Option ε :=
  match a.elements.remove ε id with
  | (elements, some e) => (a.withElements elements, some e)
  | (_, none) => (a, none)

/-- The assembly with the element of a given number changed, and that element as it was. -/
def modify (a : Assembly α) (id : ElementId) (f : ε → ε) : Assembly α × Option ε :=
  let store : Store ε := Fitting.store a.elements
  match store.get? id with
  | some e => (a.withElements (Fitting.withStore a.elements (store.modify id f)), some e)
  | none => (a, none)

/-- The assembly with an element moved, and where it was before. -/
def move (ε : Type) [Element ε] [Fitting α ε] [Placed ε α] (a : Assembly α)
    (id : ElementId) (position : Vec3 α) : Assembly α × Option (Vec3 α) :=
  let (a, e) : Assembly α × Option ε := a.modify id (Placed.withPosition · position)
  (a, e.map Placed.position)

/-- The assembly with the radius of a control point changed, and the radius before. -/
def setRadius (a : Assembly α) (id : ElementId) (radius : α) : Assembly α × Option α :=
  let (a, c) := a.modify id fun c : ControlPoint α => { c with radius }
  (a, c.map (·.radius))

end Editing

/-- The elements replaced by those of a design under fresh numbers. -/
def importDesign (a : Assembly α) (d : Design α) : Assembly α :=
  a.withElements <|
    ((((a.elements.restock d.controlPoints).restock d.hardpoints).restock d.lights).restock
      d.rooms).restock d.features

/-- The elements replaced by the seeded defaults of a class under fresh numbers. -/
def generate [Scalar α] (a : Assembly α) (seed : UInt64) (className : String)
    (s : Settings α) : Assembly α :=
  a.withElements <|
    ((((a.elements.restock (Defaults.controlPoints seed className)).restock
      (Defaults.hardpoints seed className s.turretSlots.toNat s.launcherSlots.toNat)).restock
      (Defaults.rooms className)).restock (Defaults.lights className)).restock s.features

/-- The factor that takes the largest radius some way towards half the learned width. -/
def learnedFactor [Scalar α] (width largest blend : α) : α :=
  1.0 + blend * (width / 2.0 / largest - 1.0)

/-- The radii scaled so that the hull comes some way towards a learned width. Nothing happens
without samples, or where either width is zero or less. -/
def applyProfile [Scalar α] (a : Assembly α) (p : LearnedProfile α) (blend : α) : Assembly α :=
  let points := a.elements.controlPoints.items
  let largest := Design.largestRadius points
  if !p.hasSamples || points.isEmpty || Scalar.atMost largest 0.0 || Scalar.atMost p.width 0.0 then
    a
  else
    let factor := learnedFactor p.width largest blend
    a.withElements { a.elements with
      controlPoints := ⟨points.map fun c => { c with radius := c.radius * factor }⟩ }

/-- Executes the compiled graph on the present elements. -/
def execute [Trigonometric α] (a : Assembly α) : Assembly α × Except ExecuteError Unit :=
  let (graph, r) := a.graph.execute (Stage.evaluator a.elements)
  ({ a with graph }, r)

/-- Compiles the graph. -/
def compile (a : Assembly α) : Assembly α × Except CompileError Unit :=
  let (graph, r) := a.graph.compile
  ({ a with graph }, r)

/-- The mesh the first output stage yielded in the last execution. -/
def output? (a : Assembly α) : Option (Mesh α) :=
  (a.graph.nodes.find? (·.kind = .output)).bind fun n => a.graph.output? n.id 0

/-- The elements and the last mesh as a design of no name. -/
def exportDesign (a : Assembly α) : Design α :=
  { (Design.empty : Design α) with
    controlPoints := a.elements.controlPoints.items
    hardpoints := a.elements.hardpoints.items
    lights := a.elements.lights.items
    rooms := a.elements.rooms.items
    features := a.elements.features.items
    mesh := a.output?.getD .empty }

end Assembly

end Shipwright
