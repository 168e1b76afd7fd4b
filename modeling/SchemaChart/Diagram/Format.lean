import SchemaChart.Text.Lower
import SchemaChart.Text.Quoted

/-!
# Picture formats

A drawing program writes pictures in a fixed set of formats. A format is named in any
case and is known by its name in small letters.
-/

namespace SchemaChart.Dot

def formatNames : List String :=
  ["bmp", "canon", "cgimage", "cmap", "cmapx", "cmapx_np", "dot", "dot_json", "eps", "exr",
    "fig", "gd", "gd2", "gif", "gtk", "gv", "ico", "imap", "imap_np", "ismap", "jp2", "jpe",
    "jpeg", "jpg", "json", "json0", "pct", "pdf", "pic", "pict", "plain", "plain-ext", "png",
    "pov", "ps", "ps2", "psd", "sgi", "svg", "svg_inline", "svgz", "tga", "tif", "tiff", "tk",
    "vml", "vmlz", "vrml", "wbmp", "webp", "x11", "xdot", "xdot1.2", "xdot1.4", "xdot_json",
    "xlib"]

def formats : List Text := formatNames.map String.toList

structure UnknownFormat where
  name : Text
  deriving DecidableEq, Repr

def UnknownFormat.message (e : UnknownFormat) : Text :=
  "unknown format: " ++ e.name.cited ++ " (must be one of [" ++
    Text.joinWith ", " (formats.map Text.cited) ++ "])"

def formatNamed (name : Text) : Except UnknownFormat Text :=
  if formats.contains name.lower then .ok name.lower else .error ⟨name⟩

end SchemaChart.Dot
