import Courier.Text.Split
/-!
The console: the lines that jobs write, in order.
-/
namespace Courier

structure Console where
  lines : List String := []
  deriving DecidableEq, Repr

namespace Console

def write (console : Console) (line : String) : Console := { lines := console.lines ++ [line] }

def writeAll (console : Console) (lines : List String) : Console :=
  { lines := console.lines ++ lines }

def contains (console : Console) (sought : String) : Bool :=
  console.lines.any fun line => occursIn sought.toList line.toList

end Console
end Courier
