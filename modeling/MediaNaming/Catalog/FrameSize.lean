import MediaNaming.Catalog.Kind

/-!
The width and height of a picture, written with an `x` between them.
-/

namespace MediaNaming

structure FrameSize where
  width : UInt32
  height : UInt32
  deriving DecidableEq

namespace FrameSize

def ofText? (raw : Text) : Option FrameSize := do
  let (w, h) ← Text.splitAt? 'x' raw.trim
  return ⟨← Text.uint32? w.trim, ← Text.uint32? h.trim⟩

def ofText (raw : Text) : Except CatalogFault FrameSize :=
  match ofText? raw with
  | some size => .ok size
  | none => .error (.frameSize raw)

def toText (size : FrameSize) : Text :=
  Text.ofNat size.width.toNat ++ 'x' :: Text.ofNat size.height.toNat

end FrameSize

end MediaNaming
