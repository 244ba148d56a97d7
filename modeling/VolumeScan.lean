import VolumeScan.Chs
import VolumeScan.Crc32
import VolumeScan.Device
import VolumeScan.Disks
import VolumeScan.Error
import VolumeScan.Gpt.Table
import VolumeScan.Mbr
import VolumeScan.PartitionType
import VolumeScan.Registry
import VolumeScan.Scan.Request
import VolumeScan.Scratch.Heap
import VolumeScan.Scratch.Holdings
import VolumeScan.Proofs.Access
import VolumeScan.Proofs.Bytes
import VolumeScan.Proofs.Chs
import VolumeScan.Proofs.Crc32
import VolumeScan.Proofs.Disks
import VolumeScan.Proofs.Faults
import VolumeScan.Proofs.Gpt.Bursts
import VolumeScan.Proofs.Gpt.Encoding
import VolumeScan.Proofs.Gpt.Header
import VolumeScan.Proofs.Gpt.Label
import VolumeScan.Proofs.Gpt.Location
import VolumeScan.Proofs.Gpt.Placement
import VolumeScan.Proofs.Gpt.Slots
import VolumeScan.Proofs.Gpt.Table
import VolumeScan.Proofs.Mbr
import VolumeScan.Proofs.Mbr.Encoding
import VolumeScan.Proofs.Mbr.Forms
import VolumeScan.Proofs.Registry
import VolumeScan.Proofs.Scan.Atomicity
import VolumeScan.Proofs.Scan.Balance
import VolumeScan.Proofs.Scan.Bursts
import VolumeScan.Proofs.Scan.Capacity
import VolumeScan.Proofs.Scan.Containment
import VolumeScan.Proofs.Scan.Contents
import VolumeScan.Proofs.Scan.Exactness
import VolumeScan.Proofs.Scan.FaultTolerance
import VolumeScan.Proofs.Scan.FirstSector
import VolumeScan.Proofs.Scan.Footprint
import VolumeScan.Proofs.Scan.GptDetection
import VolumeScan.Proofs.Scan.HasGpt
import VolumeScan.Proofs.Scan.Independence
import VolumeScan.Proofs.Scan.Isolation
import VolumeScan.Proofs.Scan.MbrDetection
import VolumeScan.Proofs.Scan.Partition
import VolumeScan.Proofs.Scan.ReadTrace
import VolumeScan.Proofs.Scan.Redundancy
import VolumeScan.Proofs.Scan.ScratchDiscipline
import VolumeScan.Proofs.Scan.SecondPass
import VolumeScan.Proofs.Scan.Transaction
import VolumeScan.Proofs.Scan.Unhindered
import VolumeScan.Proofs.Scratch.Buffers
import VolumeScan.Proofs.Scratch.Ledger
import VolumeScan.Proofs.Scratch.Reclaim
import VolumeScan.Proofs.Checksum
import VolumeScan.Proofs.Guid
import VolumeScan.Proofs.Scan.Reports
