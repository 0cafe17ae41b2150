import SystemLoops.Text.Basic

namespace SystemLoops.Path

private def slash : UInt8 := 0x2F

private def withoutTrailing (p : Text) : Text :=
  Text.trimEnd (· == slash) p

/-- The last element of a path; `.` for the empty path and `/` for slashes only. -/
def base (p : Text) : Text :=
  if p.isEmpty then "." else
  let trimmed := withoutTrailing p
  if trimmed.isEmpty then "/" else Text.afterLast slash trimmed

/-- One element of a path taken onto the elements kept so far, the innermost first. -/
private def keep (rooted : Bool) (kept : List Text) (element : Text) : List Text :=
  if element.isEmpty || element == Text.ofString "." then kept
  else if element == Text.ofString ".." then
    match kept with
    | last :: others => if last == Text.ofString ".." then element :: kept else others
    | [] => if rooted then [] else [element]
  else element :: kept

/-- The shortest path with the same meaning: no empty or `.` elements, and `..` only in front. -/
def clean (p : Text) : Text :=
  if p.isEmpty then "." else
  let rooted := p.head? == some slash
  let kept := ((Text.splitOn slash p).foldl (keep rooted) []).reverse
  let body := Text.join [slash] kept
  if rooted then slash :: body else if body.isEmpty then "." else body

/-- All but the last element of a path, cleaned. -/
def dir (p : Text) : Text :=
  clean (p.take (p.length - (Text.afterLast slash p).length))

/-- The part of a path up to and including its last slash. -/
def folder (p : Text) : Text :=
  p.take (p.length - (Text.afterLast slash p).length)

/-- Two paths put together and cleaned; empty parts are left out. -/
def join (a b : Text) : Text :=
  if a.isEmpty then (if b.isEmpty then [] else clean b)
  else if b.isEmpty then clean a
  else clean (a ++ [slash] ++ b)

/-- Whether a path starts at the root. -/
def isAbsolute (p : Text) : Bool :=
  p.head? == some slash

end SystemLoops.Path
