import Shipwright.Proofs.Ship.Numbering
import Shipwright.Proofs.Ship.Reopening

/-!
# A seed gives the same ship on any ship

The default elements depend on nothing but seed, class and settings. Whatever two ships were
before, generating leaves them with the same elements, except that each numbers them from its
own next number on. Stages do not look at numbers, and laying the pipeline leaves nothing of
the stages that were there. So both come to the same mesh, whatever they keep of their history.
-/

namespace Shipwright

variable {α : Type}

/-- The numbers of all elements in the order in which generating stamps them: control points,
hardpoints, rooms, lights and features. -/
def Elements.generatedIds (s : Elements α) : List ElementId :=
  s.controlPoints.items.map Element.id ++ s.hardpoints.items.map Element.id ++
    s.rooms.items.map Element.id ++ s.lights.items.map Element.id ++ s.features.items.map Element.id

/-- The default elements for a seed, a class and settings, before they are numbered. -/
def Elements.defaults [Scalar α] (seed : UInt64) (className : String) (settings : Settings α) :
    Elements α :=
  ⟨⟨Defaults.controlPoints seed className⟩,
    ⟨Defaults.hardpoints seed className settings.turretSlots.toNat settings.launcherSlots.toNat⟩,
    ⟨Defaults.lights className⟩, ⟨Defaults.rooms className⟩, ⟨settings.features⟩, .initial⟩

namespace Assembly

/-- The one ship is the other with new elements, which are numbered in turn. -/
structure Renewed (a b : Assembly α) : Prop where
  /-- The elements have the numbers from the next one of the other ship on. -/
  numbered : b.elements.generatedIds =
    (List.range' a.elements.next b.elements.count).map fun k => ⟨UInt32.ofNat k⟩
  /-- The source of numbers is just past them. -/
  source : b.elements.ids = ⟨UInt32.ofNat (a.elements.next + b.elements.count)⟩
  /-- The graph is the same, and its order is stale. -/
  graph : b.graph = { a.graph with compiled := false }
  /-- The history is the same. -/
  history : b.history = a.history

/-- On the standard pipeline the ship compiles and executes, and this is its mesh then. -/
def Renders [Trigonometric α] (a : Assembly α) (segments : UInt32) (mesh : Mesh α) : Prop :=
  (a.usePipeline segments).1.compile.2 = .ok () ∧
    (a.usePipeline segments).1.compile.1.execute.2 = .ok () ∧
    (a.usePipeline segments).1.compile.1.execute.1.output? = some mesh

section Generate

variable [Scalar α] (a : Assembly α) (seed : UInt64) (className : String) (settings : Settings α)

/-- Generating gives the default elements, but for their numbers. -/
theorem bare_generate :
    (a.generate seed className settings).elements.bare =
      (Elements.defaults seed className settings).bare := by
  simp only [generate, withElements, Elements.restock, Fitting.withStore, Elements.bare,
    Elements.defaults, Store.bare, Store.map_bare_stamp]

/-- Generating gives as many elements as there are default elements of all kinds. -/
theorem count_generate :
    (a.generate seed className settings).elements.count =
      (Defaults.controlPoints seed className : List (ControlPoint α)).length +
        (Defaults.hardpoints seed className settings.turretSlots.toNat
          settings.launcherSlots.toNat : List (Hardpoint α)).length +
        (Defaults.rooms className : List (Room α)).length +
        (Defaults.lights className : List (Light α)).length + settings.features.length := by
  simp only [generate, withElements, Elements.restock, Fitting.withStore, Elements.count,
    Store.size, Store.length_stamp]
  omega

/-- Generating gives a ship new elements and touches nothing else. -/
theorem renewed_generate : a.Renewed (a.generate seed className settings) := by
  have hstart : a.elements.ids = ⟨UInt32.ofNat a.elements.next⟩ :=
    congrArg IdSource.mk UInt32.ofNat_toNat.symm
  refine ⟨?_, ?_, rfl, rfl⟩
  · rw [count_generate]
    simp only [generate, withElements, Elements.restock, Fitting.withStore, Elements.generatedIds,
      hstart, Store.stamp_source, Store.map_id_stamp]
    simp only [← List.map_append, Nat.add_assoc, List.range'_append_1]
  · rw [count_generate]
    simp only [generate, withElements, Elements.restock, Fitting.withStore, hstart,
      Store.stamp_source, Nat.add_assoc]

end Generate

variable [Trigonometric α] {a b : Assembly α} {segments : UInt32}

/-- A ship with the standard pipeline has a mesh once it is compiled and executed. -/
theorem exists_output?_of_laid (h : Pipeline.Laid segments a.graph) :
    ∃ mesh, a.compile.2 = .ok () ∧ a.compile.1.execute.2 = .ok () ∧
      a.compile.1.execute.1.output? = some mesh := by
  obtain ⟨c, hcompile, hcompiled, hfresh, -, hlaid⟩ := h.exists_compile
  obtain ⟨d, mesh, hexecute, houtput, -⟩ := hlaid.exists_execute hfresh hcompiled
  rw [hcompile, hexecute]
  exact ⟨mesh, rfl, rfl, houtput⟩

/-- Any ship has a mesh on the standard pipeline. -/
theorem exists_renders (a : Assembly α) (segments : UInt32) : ∃ mesh, a.Renders segments mesh :=
  exists_output?_of_laid (Pipeline.laid_build graphName segments)

/-- Ships with the same elements but for their numbers have the same mesh on the pipeline. -/
theorem Renders.of_bare_eq {mesh : Mesh α} (h : a.Renders segments mesh)
    (hbare : b.elements.bare = a.elements.bare) : b.Renders segments mesh := by
  simp only [Renders, usePipeline, compile, execute, output?] at h ⊢
  rwa [Stage.evaluator_eq_of_bare_eq hbare]

/-- Two ships, whatever they were before, have the same elements but for their numbers after
generating from the same seed, class and settings: the default ones for these. Each has them
numbered in turn from its own next number on, and has nothing else changed. On the standard pipeline
both have the same mesh. -/
theorem generate_reproduces (a b : Assembly α) (seed : UInt64) (className : String)
    (settings : Settings α) (segments : UInt32) :
    a.Renewed (a.generate seed className settings) ∧
    b.Renewed (b.generate seed className settings) ∧
    (a.generate seed className settings).elements.bare =
      (b.generate seed className settings).elements.bare ∧
    (a.generate seed className settings).elements.bare =
      (Elements.defaults seed className settings).bare ∧
    ∃ mesh, (a.generate seed className settings).Renders segments mesh ∧
      (b.generate seed className settings).Renders segments mesh := by
  have hbare : (b.generate seed className settings).elements.bare =
      (a.generate seed className settings).elements.bare :=
    (b.bare_generate seed className settings).trans (a.bare_generate seed className settings).symm
  obtain ⟨mesh, hmesh⟩ := (a.generate seed className settings).exists_renders segments
  exact ⟨a.renewed_generate .., b.renewed_generate .., hbare.symm, a.bare_generate .., mesh, hmesh,
    hmesh.of_bare_eq hbare⟩

end Assembly

end Shipwright
