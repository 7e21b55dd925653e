import Compositing.Config

/-!
# Errors of the compositor

A name that no longer means anything is mostly no error: reading finds nothing, and changing does
nothing. Only requests that must answer the caller report it.
-/

namespace Compositing

inductive CompositorError where
  /-- A protocol object could not be created, or a text not be kept. Nothing changed, and a client whose
  object is missing was told. -/
  | resourceExhausted (what : String)
  | invalidHandle (what : String)
  /-- No output has a render context. -/
  | noRenderableOutput
  | buffer (error : BufferError)
  | render (error : RenderError)
  | config (fault : ConfigFault)
  | logging (fault : LoggingFault)

def CompositorError.message : CompositorError → String
  | resourceExhausted what => s!"Resource exhausted: could not allocate {what}"
  | invalidHandle what => s!"Invalid handle: {what} does not exist or was destroyed"
  | noRenderableOutput => "No output can be driven by any render backend"
  | buffer error => "Buffer Error: " ++ error.message
  | render error => "Render Context Error: " ++ error.message
  | config fault => "Configuration Error: " ++ fault.message
  | logging fault => "Logging Initialization Failed: " ++ fault.message

end Compositing
