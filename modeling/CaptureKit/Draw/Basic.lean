/-!
# Draws

A draw writes to a color and a depth target and uses up to four textures.
-/

namespace CaptureKit
namespace Draw

/-- The number of texture samplers of the graphics unit. -/
def samplerLimit : Nat := 4

end Draw

/-- The resources of one draw by name. -/
structure Draw where
  color : Option String
  depth : Option String
  textures : Vector (Option String) Draw.samplerLimit
  deriving DecidableEq

/-- One resource of a draw. -/
inductive Resource
  /-- A texture in a sampler. -/
  | texture (sampler : Fin Draw.samplerLimit) (name : String)
  /-- The color target. -/
  | color (name : String)
  /-- The depth target. -/
  | depth (name : String)
  deriving DecidableEq

namespace Draw

/-- A draw without resources. -/
def empty : Draw :=
  ⟨none, none, Vector.replicate samplerLimit none⟩

/-- The draw with one more resource; a resource in the same place is replaced. -/
def bind
    (draw : Draw) :
    Resource → Draw
  | .texture sampler name => { draw with textures := draw.textures.set sampler (some name) }
  | .color name => { draw with color := some name }
  | .depth name => { draw with depth := some name }

/-- The number of samplers that hold a texture. -/
def textureCount (draw : Draw) : Nat :=
  draw.textures.toList.countP Option.isSome

/-- The name of a resource, or a dash. -/
def nameOrDash (name : Option String) : String :=
  name.getD "-"

/-- One line on the draw. -/
def summary (draw : Draw) : String :=
  let textures := String.intercalate ", " (draw.textures.toList.map nameOrDash)
  s!"color: {nameOrDash draw.color}, depth: {nameOrDash draw.depth}, textures: [{textures}], num_textures: {draw.textureCount}"

/-- A draw has no more textures than samplers. -/
theorem textureCount_le (draw : Draw) :
    draw.textureCount ≤ samplerLimit := by
  have := List.countP_le_length (p := Option.isSome) (l := draw.textures.toList)
  rwa [Vector.length_toList] at this

/-- A sampler holds the texture that was put there last. -/
theorem textures_bind_texture
    (draw : Draw)
    (sampler : Fin samplerLimit)
    (name : String) :
    (draw.bind (.texture sampler name)).textures[sampler] = some name := by
  simp [bind]

end Draw

end CaptureKit
