/-
# The Win32 file sink

`win32_file_sink.c` over a model of the file system calls it makes. The files are a
journaled map from paths to contents. Every call may fail; what the system makes of
the coming calls is a sequence of outcomes in the state.

A staging file is opened without sharing, so it can be neither deleted nor moved
while its handle is open.
-/

import PrintDrop.Math.Journal
import PrintDrop.Receiver.Handler

namespace PrintDrop

open Math

abbrev Path := WideString
abbrev Handle := ℕ

/-- What the system makes of one call, so far as the call leaves it open: whether it
succeeds, how much a write writes, and whether a path that cannot be created is a
directory already. -/
structure ApiOutcome where
  succeeds : Bool
  written : ℕ
  isDirectory : Bool

structure Win32World where
  files : Journaled Path Bytes
  openHandles : List (Handle × Path)
  nextHandle : Handle
  outcomes : ℕ → ApiOutcome
  calls : ℕ
  /-- A file that exists could not be deleted. -/
  deleteFailed : Bool

/-- A system in which nothing has been opened yet. -/
def Win32World.start (files : Path → Option Bytes) (outcomes : ℕ → ApiOutcome) : Win32World where
  files := { initial := files, journal := [] }
  openHandles := []
  nextHandle := 0
  outcomes := outcomes
  calls := 0
  deleteFailed := false

namespace Win32World

/-- The outcome of the next call. -/
def outcome (w : Win32World) : ApiOutcome := w.outcomes w.calls

/-- The world after a call that changes nothing else. -/
def advance (w : Win32World) : Win32World := { w with calls := w.calls + 1 }

/-- Whether a file is open. -/
def isOpen (w : Win32World) (path : Path) : Bool :=
  w.openHandles.any fun entry => entry.2 == path

/-- `CreateFileW` with `CREATE_NEW` and no sharing. -/
def createNew (w : Win32World) (path : Path) : Option Handle × Win32World :=
  if w.outcome.succeeds && (w.files.get path).isNone then
    (some w.nextHandle, { w.advance with
      files := w.files.set path (some [])
      openHandles := (w.nextHandle, path) :: w.openHandles
      nextHandle := w.nextHandle + 1 })
  else (none, w.advance)

/-- `WriteFile` at the end of an open file: a part of the data is written, all of it
unless the system writes less, whether or not the call succeeds. -/
def writeFile (w : Win32World) (handle : Handle) (data : Bytes) : (Bool × ℕ) × Win32World :=
  match w.openHandles.lookup handle with
  | none => ((false, 0), w.advance)
  | some path =>
    let part := data.take w.outcome.written
    ((w.outcome.succeeds, part.length), { w.advance with
      files := w.files.set path (some ((w.files.get path).getD [] ++ part)) })

/-- `FlushFileBuffers`. -/
def flushFileBuffers (w : Win32World) (_handle : Handle) : Bool × Win32World :=
  (w.outcome.succeeds, w.advance)

/-- `CloseHandle`. -/
def closeHandle (w : Win32World) (handle : Handle) : Bool × Win32World :=
  if w.outcome.succeeds then
    (true, { w.advance with
      openHandles := w.openHandles.filter fun entry => entry.1 != handle })
  else (false, w.advance)

/-- `MoveFileExW` with `MOVEFILE_WRITE_THROUGH` only: an existing target is not
replaced. -/
def moveFile (w : Win32World) (source target : Path) : Bool × Win32World :=
  if w.outcome.succeeds && (w.files.get source).isSome && (w.files.get target).isNone &&
      !w.isOpen source then
    (true, { w.advance with
      files := (w.files.set source none).set target (w.files.get source) })
  else (false, w.advance)

/-- `DeleteFileW`. -/
def deleteFile (w : Win32World) (path : Path) : Win32World :=
  if (w.files.get path).isNone then w.advance
  else if w.outcome.succeeds && !w.isOpen path then
    { w.advance with files := w.files.set path none }
  else { w.advance with deleteFailed := true }

/-- `pd_win32_ensure_directory`: `CreateDirectoryW`, and `GetFileAttributesW` where the
path exists. Directories are not files, so no file changes. -/
def ensureDirectory (w : Win32World) (_path : Path) : Bool × Win32World :=
  if w.outcome.succeeds then (true, w.advance)
  else (w.outcome.isDirectory, w.advance.advance)

end Win32World

/-- `pd_win32_file_sink`. A null handle and `INVALID_HANDLE_VALUE` are both no handle. -/
structure Win32FileSink where
  fileHandle : Option Handle
  jobDirectory : Path
  stagingPath : Path
  finalPath : Path
  initialized : Bool

/-- A zeroed sink; initialisation starts from one, too. -/
def Win32FileSink.zero : Win32FileSink where
  fileHandle := none
  jobDirectory := []
  stagingPath := []
  finalPath := []
  initialized := false

/-- A sink and the system it acts on. -/
structure Win32SinkContext where
  sink : Win32FileSink
  world : Win32World

def backslash : UInt16 := 0x5c
def slash : UInt16 := 0x2f

/-- `L".part"`. -/
def partSuffix : WideString := [0x2e, 0x70, 0x61, 0x72, 0x74]

/-- The separator that goes between a path and a component appended to it. -/
def win32Separator (destination : WideString) : WideString :=
  match destination.getLast? with
  | none => []
  | some last => if last != backslash && last != slash then [backslash] else []

/-- `pd_win32_append_component`: the path with a component appended, if it fits. -/
def win32AppendComponent (destination component : WideString) : Option Path :=
  let separator := win32Separator destination
  if win32PathCapacity < destination.length + separator.length + component.length + 1 then none
  else some (destination ++ separator ++ component)

/-- Copying a path and appending a component to the copy, with what the destination
then holds. -/
def win32CopyAndAppend (source component : WideString) : Bool × Path :=
  if win32PathCapacity < source.length + 1 then (false, [])
  else
    match win32AppendComponent source component with
    | none => (false, source)
    | some path => (true, path)

/-- A path that was built is the two parts with a separator where one is missing, and it
fits. -/
theorem win32CopyAndAppend_ok {source component : WideString}
    (hok : (win32CopyAndAppend source component).1 = true) :
    (win32CopyAndAppend source component).2 = source ++ win32Separator source ++ component ∧
      (win32CopyAndAppend source component).2.length + 1 ≤ win32PathCapacity := by
  unfold win32CopyAndAppend at hok ⊢
  split at hok
  · cases hok
  rename_i hsource
  rw [if_neg hsource]
  unfold win32AppendComponent at hok ⊢
  dsimp only at hok ⊢
  by_cases hcomponent : win32PathCapacity <
      source.length + (win32Separator source).length + component.length + 1
  · rw [if_pos hcomponent] at hok
    cases hok
  · rw [if_neg hcomponent]
    refine ⟨rfl, ?_⟩
    simp only [List.length_append]
    omega

inductive Win32SinkResult
  | ok
  | invalidArgument
  | invalidFilename
  | invalidJobId
  | invalidUtf8
  | pathTooLong
  deriving DecidableEq, Repr

/-- `pd_win32_file_sink_init`. `MultiByteToWideChar` is a parameter; it fails on
strings it cannot decode or whose code units and terminator do not fit 121 units. -/
def win32FileSinkInit (multiByteToWideChar : Bytes → Option WideString) (c : Win32SinkContext)
    (rootDirectory : WideString) (jobId sanitizedFilename : Bytes) :
    Win32SinkResult × Win32SinkContext :=
  if rootDirectory = [] then (.invalidArgument, c)
  else
    let c := { c with sink := Win32FileSink.zero }
    if !jobIdIsValid jobId then (.invalidJobId, c)
    else
      let checked := filenameSanitize (some sanitizedFilename) (some filenameCapacity)
      if checked.result ≠ .ok ∨ checked.output ≠ some sanitizedFilename then
        (.invalidFilename, c)
      else
        match multiByteToWideChar sanitizedFilename with
        | none => (.invalidUtf8, c)
        | some wideFilename =>
          let wideJobId := jobId.map UInt8.toUInt16
          let job := win32CopyAndAppend rootDirectory wideJobId
          let c := { c with sink := { c.sink with jobDirectory := job.2 } }
          if !job.1 then (.pathTooLong, c)
          else
            let final := win32CopyAndAppend job.2 wideFilename
            let c := { c with sink := { c.sink with finalPath := final.2 } }
            if !final.1 then (.pathTooLong, c)
            else if filenameCapacity + 6 < wideFilename.length + 6 then (.pathTooLong, c)
            else
              let staging := win32CopyAndAppend job.2 (wideFilename ++ partSuffix)
              let c := { c with sink := { c.sink with stagingPath := staging.2 } }
              if !staging.1 then (.pathTooLong, c)
              else
                let ensured := c.world.ensureDirectory rootDirectory
                let c := { c with world := ensured.2 }
                if !ensured.1 then (.invalidArgument, c)
                else (.ok, { c with sink := { c.sink with initialized := true } })

/-- `pd_win32_sink_begin`. -/
def win32SinkBegin (c : Win32SinkContext) (_expectedBytes : UInt64) :
    FileSinkStatus × Win32SinkContext :=
  if !c.sink.initialized || c.sink.fileHandle.isSome then (.ioError, c)
  else
    let ensured := c.world.ensureDirectory c.sink.jobDirectory
    let c := { c with world := ensured.2 }
    if !ensured.1 then (.ioError, c)
    else
      match c.world.createNew c.sink.stagingPath with
      | (none, world) => (.ioError, { c with world := world })
      | (some handle, world) =>
        (.ok, { sink := { c.sink with fileHandle := some handle }, world := world })

/-- `MAXDWORD`. -/
def maxDword : ℕ := 0xffffffff

/-- `pd_win32_sink_write`. -/
def win32SinkWrite (c : Win32SinkContext) (data : Bytes) :
    (FileSinkStatus × ℕ) × Win32SinkContext :=
  match c.sink.fileHandle with
  | none => ((.ioError, 0), c)
  | some handle =>
    if maxDword < data.length then ((.ioError, 0), c)
    else
      let written := c.world.writeFile handle data
      let c := { c with world := written.2 }
      if !written.1.1 then ((.ioError, 0), c) else ((.ok, written.1.2), c)

/-- `pd_win32_sink_commit`. -/
def win32SinkCommit (c : Win32SinkContext) : FileSinkStatus × Win32SinkContext :=
  match c.sink.fileHandle with
  | none => (.ioError, c)
  | some handle =>
    let flushed := c.world.flushFileBuffers handle
    let c := { c with world := flushed.2 }
    if !flushed.1 then (.ioError, c)
    else
      let closed := c.world.closeHandle handle
      let c := { c with world := closed.2 }
      if !closed.1 then (.ioError, c)
      else
        let moved := c.world.moveFile c.sink.stagingPath c.sink.finalPath
        let c := { sink := { c.sink with fileHandle := none }, world := moved.2 }
        if !moved.1 then (.ioError, c) else (.ok, c)

/-- `pd_win32_sink_abort`. -/
def win32SinkAbort (c : Win32SinkContext) : Win32SinkContext :=
  let c :=
    match c.sink.fileHandle with
    | none => c
    | some handle =>
      { sink := { c.sink with fileHandle := none }, world := (c.world.closeHandle handle).2 }
  if c.sink.stagingPath = [] then c
  else { c with world := c.world.deleteFile c.sink.stagingPath }

/-- `pd_win32_file_sink_ops`. -/
def win32FileSinkOps : FileSinkOps Win32SinkContext where
  begin := win32SinkBegin
  write := win32SinkWrite
  commit := win32SinkCommit
  abort := win32SinkAbort

end PrintDrop
