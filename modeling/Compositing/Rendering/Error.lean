import Compositing.Ident

/-!
# What can go wrong in rendering
-/

namespace Compositing

inductive RenderError where
  /-- A backend could not be set up. -/
  | construction (backend reason : String)
  /-- None of the backends that were tried could be set up. -/
  | noUsableBackend (tried : List String)
  | unknownBackend (name : String)
  /-- The backend lacks an operation. -/
  | unsupported (backend operation : String)
  | imageNotFound (image : ImageId)
  /-- The context could not be made current. -/
  | bind (reason : String)
  /-- The finished frame could not be presented. -/
  | present (reason : String)
  /-- The screen did not take the finished frame. -/
  | pageFlip (reason : String)
  | terminated
  | outOfMemory (what : String)
  deriving DecidableEq, Repr

def RenderError.message : RenderError → String
  | construction backend reason => s!"failed to initialize {backend} backend: {reason}"
  | noUsableBackend tried => "no usable render backend (tried: " ++ ", ".intercalate tried ++ ")"
  | unknownBackend name => "unknown render backend `" ++ name ++ "`"
  | unsupported backend operation => s!"{backend} backend does not support {operation}"
  | imageNotFound image => s!"image ImageId({image.number}) does not belong to this context"
  | bind reason => s!"failed to bind context: {reason}"
  | present reason => s!"failed to present frame: {reason}"
  | pageFlip reason => s!"page flip failed: {reason}"
  | terminated => "render context was terminated"
  | outOfMemory what => s!"out of memory allocating {what}"

end Compositing
