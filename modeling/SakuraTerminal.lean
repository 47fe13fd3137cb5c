import SakuraTerminal.Foundations.TransitionSystem
import SakuraTerminal.Foundations.PackedText
import SakuraTerminal.Foundations.Tiling
import SakuraTerminal.Foundations.Grouping
import SakuraTerminal.Foundations.InternTable
import SakuraTerminal.Foundations.Patch
import SakuraTerminal.Foundations.SharedHeap
import SakuraTerminal.Foundations.LruCache
import SakuraTerminal.Foundations.Painting
import SakuraTerminal.Foundations.SlidingWindow
import SakuraTerminal.Foundations.Shifts
import SakuraTerminal.Foundations.Resources
import SakuraTerminal.Foundations.Delivery
import SakuraTerminal.Foundations.Progress
import SakuraTerminal.Foundations.MemoCache
import SakuraTerminal.Foundations.Refinement
import SakuraTerminal.Core.PackedGrid
import SakuraTerminal.Core.PackedFrame
import SakuraTerminal.Core.RowLayout
import SakuraTerminal.Core.RebuildRows
import SakuraTerminal.Core.DirtyRegion
import SakuraTerminal.Core.DrawPackedCell
import SakuraTerminal.Core.Terminal
import SakuraTerminal.Core.TerminalRun
import SakuraTerminal.Core.ShiftDetection
import SakuraTerminal.Core.CursorSequence
import SakuraTerminal.Core.FrameViews
import SakuraTerminal.Core.ReachableGrid
import SakuraTerminal.Core.TakenFrame
import SakuraTerminal.Core.FrameMetrics
import SakuraTerminal.Core.UnchangedFrame
import SakuraTerminal.Core.DirtyBounds
import SakuraTerminal.Core.SpanPieces
import SakuraTerminal.Core.CoalescedSpans
import SakuraTerminal.Core.WrappedOffsets
import SakuraTerminal.Core.FrameDelta
import SakuraTerminal.Core.CursorOverlay
import SakuraTerminal.Core.ViewsAgree
import SakuraTerminal.Core.WideGlyphs
import SakuraTerminal.Core.FullDecode
import SakuraTerminal.Core.ReportedCells
import SakuraTerminal.Core.RowTexts
import SakuraTerminal.Core.AgeReset
import SakuraTerminal.Core.DisplayedStyles
import SakuraTerminal.Core.ScrolledReuse
import SakuraTerminal.Core.SharedGrid
import SakuraTerminal.Core.PointwiseRebuild
import SakuraTerminal.Core.SharedRun
import SakuraTerminal.Core.Selection
import SakuraTerminal.Transport.Session
import SakuraTerminal.Transport.QueueBound
import SakuraTerminal.Transport.OutputLedger
import SakuraTerminal.Transport.PtyLifecycle
import SakuraTerminal.Transport.PtyDescriptors
import SakuraTerminal.Transport.ReapedChild
import SakuraTerminal.Transport.TransportStatus
import SakuraTerminal.Transport.PtyReturns
import SakuraTerminal.Transport.PtyWrite
import SakuraTerminal.Transport.InputWrites
import SakuraTerminal.Transport.ConPtyLifecycle
import SakuraTerminal.Transport.ConPtyHandles
import SakuraTerminal.Transport.ConPtyStatus
import SakuraTerminal.Transport.ConPtyReturns
import SakuraTerminal.Wx.FrameMerge
import SakuraTerminal.Wx.ExitNotice
import SakuraTerminal.Wx.OutputPipeline
import SakuraTerminal.Wx.GlyphCache
import SakuraTerminal.Wx.RenderFrame
import SakuraTerminal.Wx.RenderCaches
import SakuraTerminal.Wx.MouseGestures
import SakuraTerminal.Wx.SelectionDrags
import SakuraTerminal.Wx.MouseCapture
import SakuraTerminal.Wx.PaintResize
import SakuraTerminal.Wx.PaintRequests
import SakuraTerminal.Wx.PaintFrame
import SakuraTerminal.Wx.DisplayedScreen
import SakuraTerminal.Wx.PaintLatency
import SakuraTerminal.Wx.WheelScroll
import SakuraTerminal.Wx.ScrollAnimation
import SakuraTerminal.Wx.AnimationRun
import SakuraTerminal.Wx.GridSizes
import SakuraTerminal.Wx.InputPipeline
import SakuraTerminal.Wx.AppReports
import SakuraTerminal.Wx.StatusReports
