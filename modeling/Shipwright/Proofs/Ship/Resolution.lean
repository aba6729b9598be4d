import Shipwright.Proofs.Ship.Generation

/-!
# The ring resolution of the standard pipeline

A pipeline is laid for a ring resolution of 32 bits, which its hull node keeps as a decimal text and
reads as a signed number. Up to 2³¹ - 1 the two agree and the hull is lofted with the resolution
that was asked for. A larger one is malformed to the reader, so that the hull falls back to the
default resolution; nothing tells the two cases apart but the mesh.
-/

namespace Shipwright

namespace Pipeline

/-- The hull node of the standard pipeline. -/
def hullNode (segments : UInt32) : Node Stage :=
  (Node.ofKind ⟨1⟩ .hullSpline).setProperty Stage.segmentsProperty (toString segments.toNat)

/-- The hull node is the one node of the pipeline that lofts a hull. -/
theorem Laid.mem_and_kind_iff {ν : Type} {segments : UInt32} {g : Graph Stage ν}
    (h : Laid segments g) (n : Node Stage) :
    n ∈ g.nodes ∧ n.kind = .hullSpline ↔ n = hullNode segments := by
  rw [h.nodes]
  constructor
  · rintro ⟨hn, hkind⟩
    have hothers : ∀ m ∈ (stages segments).tail, m.kind ≠ .hullSpline := by
      simp [stages, Node.ofKind]
    exact (List.mem_cons.mp hn).resolve_right fun htail => hothers n htail hkind
  · rintro rfl
    exact ⟨.head _, rfl⟩

variable {α : Type} [Trigonometric α]

/-- The hull node yields the hull around the control points in the ring resolution it comes to. -/
theorem evaluator_hullNode (segments : UInt32) (s : Elements α) (inputs : List (Mesh α)) :
    Stage.evaluator s (hullNode segments) inputs =
      .single (.loft s.controlPoints.items (resolution segments)) := rfl

end Pipeline

namespace Assembly

open Pipeline

variable {α : Type} [Trigonometric α]

/-- On the standard pipeline one node lofts the hull, whatever is on the ship: evaluated by itself
or compiled and executed with the others, it yields the hull around the control points in the ring
resolution that the pipeline was laid for, if that is less than 2³¹, and in the default one
otherwise. -/
theorem hull_of_usePipeline (a : Assembly α) (segments : UInt32) :
    let b := (a.usePipeline segments).1
    let hull := (a.usePipeline segments).2.hull
    let resolution := if segments.toNat < 2 ^ 31 then segments.toNat else Stage.defaultSegments
    ∃ n : Node Stage, (∀ m, m ∈ b.graph.nodes ∧ m.kind = .hullSpline ↔ m = n) ∧ n.id = hull ∧
      ∀ s : Elements α,
        (∀ inputs, Stage.evaluator s n inputs =
          .single (.loft s.controlPoints.items resolution)) ∧
        ∃ c d : Assembly α, { b with elements := s }.compile = (c, .ok ()) ∧
          c.execute = (d, .ok ()) ∧
          d.graph.output? hull 0 = some (.loft s.controlPoints.items resolution) := by
  intro b hull resolution
  have hlaid : Laid segments b.graph := laid_build _ _
  have hresolution : Pipeline.resolution segments = resolution := resolution_eq_ite segments
  have hevaluator : ∀ (s : Elements α) inputs, Stage.evaluator s (hullNode segments) inputs =
      .single (.loft s.controlPoints.items resolution) := by
    intro s inputs
    rw [← hresolution]
    exact evaluator_hullNode segments s inputs
  refine ⟨hullNode segments, hlaid.mem_and_kind_iff, rfl, fun s => ⟨hevaluator s, ?_⟩⟩
  have hwith : Laid segments ({ b with elements := s } : Assembly α).graph := hlaid
  obtain ⟨c, hcompile, hcompiled, hfresh, helements, hcompiledLaid⟩ := hwith.exists_compile
  obtain ⟨outputs, hexecute, hsolves⟩ := exists_execute_of_fresh hfresh hcompiled
  have hmem := ((hcompiledLaid.mem_and_kind_iff _).mpr rfl).1
  refine ⟨c, _, hcompile, hexecute, ?_⟩
  have hcached : outputs.get? (hull, 0) =
      some (.loft c.elements.controlPoints.items (Pipeline.resolution segments)) :=
    hsolves.get?_of_mem hmem
  rw [helements, hresolution] at hcached
  exact hcached

/-- A spine of two control points. -/
def shortSpine : Elements Single :=
  { Elements.empty with
    controlPoints := ⟨[.at .zero 1.0, .at ⟨4.0, 0.0, 0.0⟩ 1.0]⟩ }

/-- On a pipeline laid for 2³¹ segments the hull around two control points is the one of eight
segments, with eighteen vertices, and not the one that was asked for. -/
theorem hull_of_unsigned_resolution :
    ∃ n ∈ ((empty : Assembly Single).usePipeline 0x80000000).1.graph.nodes,
      n.kind = .hullSpline ∧
      Stage.evaluator shortSpine n [] ≠
        .single (.loft shortSpine.controlPoints.items (0x80000000 : UInt32).toNat) ∧
      ∃ mesh, Stage.evaluator shortSpine n [] = .single mesh ∧ mesh.vertexCount = 18 := by
  have hresolution : Pipeline.resolution 0x80000000 = 8 := resolution_eq_ite _
  have hyields := evaluator_hullNode 0x80000000 shortSpine []
  rw [hresolution] at hyields
  have hmem := ((laid_build (ν := Mesh Single) graphName 0x80000000).mem_and_kind_iff _).mpr rfl
  have hcount : (Mesh.loft shortSpine.controlPoints.items 8).vertexCount = 18 := by
    rw [Mesh.vertexCount_loft]
    decide
  refine ⟨hullNode 0x80000000, hmem.1, hmem.2, fun hequal => ?_, _, hyields, hcount⟩
  have hmesh : some (Mesh.loft shortSpine.controlPoints.items 8) =
      some (.loft shortSpine.controlPoints.items (0x80000000 : UInt32).toNat) :=
    congrArg (·.get? 0) (hyields.symm.trans hequal)
  have hasked := congrArg Mesh.vertexCount (Option.some.inj hmesh)
  rw [hcount, Mesh.vertexCount_loft, if_pos (by decide)] at hasked
  contradiction

end Assembly

end Shipwright
