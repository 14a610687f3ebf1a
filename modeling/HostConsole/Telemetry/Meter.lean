/-
The telemetry meter. It adds up frame times, and when their sum is above zero and has reached the interval it closes
the block of frames: the counters are read, a report is made, and the next block begins. Frame times below zero and
those that are no number count as zero; the count of frames stops growing at 2^32 - 1.
-/
import HostConsole.Telemetry.Report

namespace HostConsole

/-- the meter between two frames -/
structure Meter where
  interval : Double
  frames : Nat
  elapsed : Double
  lastHeapBytes : Option Nat
  lastRealSeconds : Option Double
  latest : Option Report

namespace Meter

/-- the count of frames of a block stops growing here -/
def frameLimit : Nat := UInt32.size - 1

/-- a time in double width, at least zero -/
def duration (seconds : Single) : Double :=
  (seconds.max (Binary.zero false)).convert .double

/-- a meter that reports once in so many seconds -/
def ofInterval (seconds : Single) : Meter :=
  ⟨duration seconds, 0, Binary.zero false, none, none, none⟩

/-- a frame begins: it is counted, and its time is added -/
def count (meter : Meter) (seconds : Single) : Meter :=
  { meter with
    frames := min frameLimit (meter.frames + 1)
    elapsed := meter.elapsed.add (duration seconds) }

/-- the block is full: it has taken time, and no less than the interval -/
def isFull (meter : Meter) : Bool :=
  !(meter.elapsed.lt meter.interval || meter.elapsed.le (Binary.zero false))

/-- the report of a full block -/
def report (meter : Meter) (counters : Counters) : Report :=
  let lastHeap := meter.lastHeapBytes.getD counters.heapBytes
  { fps := Binary.div (Binary.ofNat meter.frames) meter.elapsed
    managedMegabytes := Report.megabytes counters.managedBytes
    totalMegabytes := Report.megabytes counters.totalBytes
    heapMegabytes := Report.megabytes counters.heapBytes
    heapChange := Binary.div (Binary.sub (Binary.ofNat counters.heapBytes) (Binary.ofNat lastHeap)) Report.megabyte
    secondsSinceLast :=
      match meter.lastRealSeconds with
      | some last => counters.realSeconds.sub last
      | none => Binary.zero false
    counters }

/-- begin the next block after a report -/
def restart (meter : Meter) (report : Report) : Meter :=
  { meter with
    frames := 0
    elapsed := Binary.zero false
    lastHeapBytes := some report.counters.heapBytes
    lastRealSeconds := some report.counters.realSeconds
    latest := some report }

/-- one frame; the counters are read only if it closes a block -/
def tick (meter : Meter) (seconds : Single) (counters : Unit → Counters) : Meter × Option Report :=
  let counted := meter.count seconds
  if counted.isFull then
    let report := counted.report (counters ())
    (counted.restart report, some report)
  else (counted, none)

end Meter

end HostConsole
