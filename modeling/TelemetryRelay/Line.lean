import TelemetryRelay.Batch
import TelemetryRelay.Decimal.Layout

/-!
The line format: one line for each series, `name[,tag...] value=v[,value=v...] time`, in the order
of the keys. The time is that of the first point, in nanoseconds.
-/

namespace TelemetryRelay.Line

/-- The least and the greatest 64-bit integer bound a time; one beyond them is cut off there. -/
def nanoseconds (seconds : Int64) : Int :=
  max (-2 ^ 63) (min (2 ^ 63 - 1) (seconds.toInt * 1000000000))

def field (point : Point) : String :=
  "value=" ++ Decimal.Layout.value.render point.value

def head (lead name : String) (tags : Tags) : String :=
  lead ++ name ++ if tags.isEmpty then "" else "," ++ tags.text

def fields (points : List Point) : String :=
  String.intercalate "," (points.map field)

/-- The time on the line of a series; `now` stands in for a series without points. -/
def time (points : List Point) (now : Int64) : Int64 :=
  match points with
  | [] => now
  | first :: _ => first.seconds

/-- The line of a series with its line feed. `lead` is put before the name as it is. -/
def render (lead : String) (now : Int64) (name : String) (series : Series) : String :=
  head lead name series.tags ++ " " ++ fields series.points ++ " " ++
    toString (nanoseconds (time series.points now)) ++ "\n"

end TelemetryRelay.Line

namespace TelemetryRelay

structure Payload where
  text : String
  count : Nat
deriving DecidableEq, Repr

def Batch.payload (batch : Batch) (lead : String) (now : Int64) : Payload where
  text := String.join (batch.toList.map fun (key, series) => Line.render lead now key.name series)
  count := batch.size

theorem Batch.count_payload (batch : Batch) (lead : String) (now : Int64) :
    (batch.payload lead now).count = batch.toList.length :=
  Std.ExtTreeMap.length_toList.symm

end TelemetryRelay
