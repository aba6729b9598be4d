import Shipwright.Mesh.Basic
import Shipwright.Ron.Codec

/-!
# Meshes in files

A mesh is written as its three flat buffers.
-/

namespace Shipwright

open Ron Codec

instance {α : Type} [Codec α] : Codec (Mesh α) where
  encode m := .record (some "MeshData")
    [("vertices", encode m.vertices), ("normals", encode m.normals),
      ("indices", encode m.indices)]
  decode exts v := do
    let fs ← v.fields? exts "MeshData"
    return ⟨← required exts fs "vertices", ← required exts fs "normals",
      ← required exts fs "indices"⟩

end Shipwright
