import Covenant.Text.Unicode.Runs

/-!
# Unicode general categories

Every code point has one general category: a letter (`Lu`, `Ll`, `Lt`, `Lm`, `Lo`), a mark
(`Mn`, `Mc`, `Me`), a number (`Nd`, `Nl`, `No`), punctuation (`Pc`, `Pd`, `Ps`, `Pe`, `Pi`,
`Pf`, `Po`), a symbol (`Sm`, `Sc`, `Sk`, `So`), a separator (`Zs`, `Zl`, `Zp`) or other
(`Cc`, `Cf`, `Cs`, `Co`, `Cn`). The table follows the Unicode Character Database.
-/

namespace Covenant.Text.Unicode

/-- A general category. -/
inductive Category where
  | Lu
  | Ll
  | Lt
  | Lm
  | Lo
  | Mn
  | Mc
  | Me
  | Nd
  | Nl
  | No
  | Pc
  | Pd
  | Ps
  | Pe
  | Pi
  | Pf
  | Po
  | Sm
  | Sc
  | Sk
  | So
  | Zs
  | Zl
  | Zp
  | Cc
  | Cf
  | Cs
  | Co
  | Cn
  deriving DecidableEq, Repr, Inhabited

/-- The categories in the order the table numbers them. -/
def Category.all : Array Category :=
  #[.Lu, .Ll, .Lt, .Lm, .Lo, .Mn, .Mc, .Me, .Nd, .Nl, .No, .Pc, .Pd, .Ps, .Pe, .Pi, .Pf, .Po, .Sm, .Sc, .Sk, .So, .Zs, .Zl, .Zp, .Cc, .Cf, .Cs, .Co, .Cn]

/-- Where each run of one category starts, with the category's number. -/
def categoryTable : String :=
  String.join
    ["0.p w.m x.h 10.j 11.h 14.d 15.e 16.h 17.i 18.h 19.c 1a.h 1c.8 1m.h 1o.i 1r.h 1t.0 2j.d 2k.h 2l.e ",
     "2m.k 2n.b 2o.k 2p.1 3f.d 3g.i 3h.e 3i.i 3j.p 4g.m 4h.h 4i.j 4m.l 4n.h 4o.k 4p.l 4q.4 4r.f 4s.i ",
     "4t.q 4u.l 4v.k 4w.l 4x.i 4y.a 50.k 51.1 52.h 54.k 55.a 56.4 57.g 58.a 5b.h 5c.0 5z.i 60.0 67.1 ",
     "6v.i 6w.1 74.0 75.1 76.0 77.1 78.0 79.1 7a.0 7b.1 7c.0 7d.1 7e.0 7f.1 7g.0 7h.1 7i.0 7j.1 7k.0 ",
     "7l.1 7m.0 7n.1 7o.0 7p.1 7q.0 7r.1 7s.0 7t.1 7u.0 7v.1 7w.0 7x.1 7y.0 7z.1 80.0 81.1 82.0 83.1 ",
     "84.0 85.1 86.0 87.1 88.0 89.1 8a.0 8b.1 8c.0 8d.1 8e.0 8f.1 8g.0 8h.1 8i.0 8j.1 8k.0 8l.1 8m.0 ",
     "8n.1 8p.0 8q.1 8r.0 8s.1 8t.0 8u.1 8v.0 8w.1 8x.0 8y.1 8z.0 90.1 91.0 92.1 93.0 94.1 96.0 97.1 ",
     "98.0 99.1 9a.0 9b.1 9c.0 9d.1 9e.0 9f.1 9g.0 9h.1 9i.0 9j.1 9k.0 9l.1 9m.0 9n.1 9o.0 9p.1 9q.0 ",
     "9r.1 9s.0 9t.1 9u.0 9v.1 9w.0 9x.1 9y.0 9z.1 a0.0 a1.1 a2.0 a3.1 a4.0 a5.1 a6.0 a7.1 a8.0 a9.1 ",
     "aa.0 ab.1 ac.0 ad.1 ae.0 af.1 ag.0 ai.1 aj.0 ak.1 al.0 am.1 ap.0 ar.1 as.0 at.1 au.0 aw.1 ax.0 ",
     "b0.1 b2.0 b6.1 b7.0 b9.1 ba.0 bd.1 bg.0 bi.1 bj.0 bl.1 bm.0 bn.1 bo.0 bp.1 bq.0 bs.1 bt.0 bu.1 ",
     "bw.0 bx.1 by.0 c0.1 c1.0 c4.1 c5.0 c6.1 c7.0 c9.1 cb.4 cc.0 cd.1 cg.4 ck.0 cl.2 cm.1 cn.0 co.2 ",
     "cp.1 cq.0 cr.2 cs.1 ct.0 cu.1 cv.0 cw.1 cx.0 cy.1 cz.0 d0.1 d1.0 d2.1 d3.0 d4.1 d5.0 d6.1 d7.0 ",
     "d8.1 da.0 db.1 dc.0 dd.1 de.0 df.1 dg.0 dh.1 di.0 dj.1 dk.0 dl.1 dm.0 dn.1 do.0 dp.1 dq.0 dr.1 ",
     "dt.0 du.2 dv.1 dw.0 dx.1 dy.0 e1.1 e2.0 e3.1 e4.0 e5.1 e6.0 e7.1 e8.0 e9.1 ea.0 eb.1 ec.0 ed.1 ",
     "ee.0 ef.1 eg.0 eh.1 ei.0 ej.1 ek.0 el.1 em.0 en.1 eo.0 ep.1 eq.0 er.1 es.0 et.1 eu.0 ev.1 ew.0 ",
     "ex.1 ey.0 ez.1 f0.0 f1.1 f2.0 f3.1 f4.0 f5.1 f6.0 f7.1 f8.0 f9.1 fa.0 fb.1 fc.0 fd.1 fe.0 ff.1 ",
     "fg.0 fh.1 fi.0 fj.1 fk.0 fl.1 fm.0 fn.1 fu.0 fw.1 fx.0 fz.1 g1.0 g2.1 g3.0 g7.1 g8.0 g9.1 ga.0 ",
     "gb.1 gc.0 gd.1 ge.0 gf.1 ic.4 id.1 j4.3 jm.k jq.3 k2.k kg.3 kl.k ks.3 kt.k ku.3 kv.k lc.5 og.0 ",
     "oh.1 oi.0 oj.1 ok.3 ol.k om.0 on.1 oo.t oq.3 or.1 ou.h ov.0 ow.t p0.k p2.0 p3.h p4.0 p7.t p8.0 ",
     "p9.t pa.0 pc.1 pd.0 pu.t pv.0 q4.1 r3.0 r4.1 r6.0 r9.1 rc.0 rd.1 re.0 rf.1 rg.0 rh.1 ri.0 rj.1 ",
     "rk.0 rl.1 rm.0 rn.1 ro.0 rp.1 rq.0 rr.1 rs.0 rt.1 ru.0 rv.1 rw.0 rx.1 ry.0 rz.1 s4.0 s5.1 s6.i ",
     "s7.0 s8.1 s9.0 sb.1 sd.0 ts.1 v4.0 v5.1 v6.0 v7.1 v8.0 v9.1 va.0 vb.1 vc.0 vd.1 ve.0 vf.1 vg.0 ",
     "vh.1 vi.0 vj.1 vk.0 vl.1 vm.0 vn.1 vo.0 vp.1 vq.0 vr.1 vs.0 vt.1 vu.0 vv.1 vw.0 vx.1 vy.0 vz.1 ",
     "w0.0 w1.1 w2.l w3.5 w8.7 wa.0 wb.1 wc.0 wd.1 we.0 wf.1 wg.0 wh.1 wi.0 wj.1 wk.0 wl.1 wm.0 wn.1 ",
     "wo.0 wp.1 wq.0 wr.1 ws.0 wt.1 wu.0 wv.1 ww.0 wx.1 wy.0 wz.1 x0.0 x1.1 x2.0 x3.1 x4.0 x5.1 x6.0 ",
     "x7.1 x8.0 x9.1 xa.0 xb.1 xc.0 xd.1 xe.0 xf.1 xg.0 xh.1 xi.0 xj.1 xk.0 xl.1 xm.0 xn.1 xo.0 xp.1 ",
     "xq.0 xr.1 xs.0 xu.1 xv.0 xw.1 xx.0 xy.1 xz.0 y0.1 y1.0 y2.1 y3.0 y4.1 y5.0 y6.1 y8.0 y9.1 ya.0 ",
     "yb.1 yc.0 yd.1 ye.0 yf.1 yg.0 yh.1 yi.0 yj.1 yk.0 yl.1 ym.0 yn.1 yo.0 yp.1 yq.0 yr.1 ys.0 yt.1 ",
     "yu.0 yv.1 yw.0 yx.1 yy.0 yz.1 z0.0 z1.1 z2.0 z3.1 z4.0 z5.1 z6.0 z7.1 z8.0 z9.1 za.0 zb.1 zc.0 ",
     "zd.1 ze.0 zf.1 zg.0 zh.1 zi.0 zj.1 zk.0 zl.1 zm.0 zn.1 zo.0 zp.1 zq.0 zr.1 zs.0 zt.1 zu.0 zv.1 ",
     "zw.0 zx.1 zy.0 zz.1 100.0 101.1 102.0 103.1 104.0 105.1 106.0 107.1 108.0 109.1 10a.0 10b.1 ",
     "10c.0 10d.1 10e.0 10f.1 10g.0 10h.1 10i.0 10j.1 10k.0 10l.1 10m.0 10n.1 10o.0 10p.1 10q.0 10r.1 ",
     "10s.0 10t.1 10u.0 10v.1 10w.t 10x.0 11z.t 121.3 122.h 128.1 13d.h 13e.c 13f.t 13h.l 13j.j 13k.t ",
     "13l.5 14u.c 14v.5 14w.h 14x.5 14z.h 150.5 152.h 153.5 154.t 15c.4 163.t 167.4 16b.h 16d.t 16o.q ",
     "16u.i 16x.h 16z.j 170.h 172.l 174.5 17f.h 17g.q 17h.h 17k.4 18g.3 18h.4 18r.5 19c.8 19m.h 19q.4 ",
     "19s.5 19t.4 1ck.h 1cl.4 1cm.5 1ct.q 1cu.l 1cv.5 1d1.3 1d3.5 1d5.l 1d6.5 1da.4 1dc.8 1dm.4 1dp.l ",
     "1dr.4 1ds.h 1e6.t 1e7.q 1e8.4 1e9.5 1ea.4 1f4.5 1fv.t 1fx.4 1ie.5 1ip.4 1iq.t 1j4.8 1je.4 1kb.5 ",
     "1kk.3 1km.l 1kn.h 1kq.3 1kr.t 1kt.5 1ku.j 1kw.4 1li.5 1lm.3 1ln.5 1lw.3 1lx.5 1m0.3 1m1.5 1m6.t ",
     "1m8.h 1mn.t 1mo.4 1nd.5 1ng.t 1ni.h 1nj.t 1nk.4 1nv.t 1o0.4 1oo.k 1op.4 1ov.t 1ow.q 1oy.t 1p4.5 ",
     "1pc.4 1qh.3 1qi.5 1r6.q 1r7.5 1s3.6 1s4.4 1tm.5 1tn.6 1to.5 1tp.4 1tq.6 1tt.5 1u1.6 1u5.5 1u6.6 ",
     "1u8.4 1u9.5 1ug.4 1uq.5 1us.h 1uu.8 1v4.h 1v5.3 1v6.4 1vl.5 1vm.6 1vo.t 1vp.4 1vx.t 1vz.4 1w1.t ",
     "1w3.4 1wp.t 1wq.4 1wx.t 1wy.4 1wz.t 1x2.4 1x6.t 1x8.5 1x9.4 1xa.6 1xd.5 1xh.t 1xj.6 1xl.t 1xn.6 ",
     "1xp.5 1xq.4 1xr.t 1xz.6 1y0.t 1y4.4 1y6.t 1y7.4 1ya.5 1yc.t 1ye.8 1yo.4 1yq.j 1ys.a 1yy.l 1yz.j ",
     "1z0.4 1z1.h 1z2.5 1z3.t 1z5.5 1z7.6 1z8.t 1z9.4 1zf.t 1zj.4 1zl.t 1zn.4 209.t 20a.4 20h.t 20i.4 ",
     "20k.t 20l.4 20n.t 20o.4 20q.t 20s.5 20t.t 20u.6 20x.5 20z.t 213.5 215.t 217.5 21a.t 21d.5 21e.t ",
     "21l.4 21p.t 21q.4 21r.t 21y.8 228.5 22a.4 22d.5 22e.h 22f.t 22p.5 22r.6 22s.t 22t.4 232.t 233.4 ",
     "236.t 237.4 23t.t 23u.4 241.t 242.4 244.t 245.4 24a.t 24c.5 24d.4 24e.6 24h.5 24m.t 24n.5 24p.6 ",
     "24q.t 24r.6 24t.5 24u.t 24w.4 24x.t 25c.4 25e.5 25g.t 25i.8 25s.h 25t.j 25u.t 261.4 262.5 268.t ",
     "269.5 26a.6 26c.t 26d.4 26l.t 26n.4 26p.t 26r.4 27d.t 27e.4 27l.t 27m.4 27o.t 27p.4 27u.t 27w.5 ",
     "27x.4 27y.6 27z.5 280.6 281.5 285.t 287.6 289.t 28b.6 28d.5 28e.t 28l.5 28n.6 28o.t 28s.4 28u.t ",
     "28v.4 28y.5 290.t 292.8 29c.l 29d.4 29e.a 29k.t 29u.5 29v.4 29w.t 29x.4 2a3.t 2a6.4 2a9.t 2aa.4 ",
     "2ae.t 2ah.4 2aj.t 2ak.4 2al.t 2am.4 2ao.t 2ar.4 2at.t 2aw.4 2az.t 2b2.4 2be.t 2bi.6 2bk.5 2bl.6 ",
     "2bn.t 2bq.6 2bt.t 2bu.6 2bx.5 2by.t 2c0.4 2c1.t 2c7.6 2c8.t 2cm.8 2cw.a 2cz.l 2d5.j 2d6.l 2d7.t ",
     "2dc.5 2dd.6 2dg.5 2dh.4 2dp.t 2dq.4 2dt.t 2du.4 2eh.t 2ei.4 2ey.t 2f0.5 2f1.4 2f2.5 2f5.6 2f9.t ",
     "2fa.5 2fd.t 2fe.5 2fi.t 2fp.5 2fr.t 2fs.4 2fv.t 2fx.4 2fy.t 2g0.4 2g2.5 2g4.t 2g6.8 2gg.t 2gn.h ",
     "2go.a 2gv.l 2gw.4 2gx.5 2gy.6 2h0.h 2h1.4 2h9.t 2ha.4 2hd.t 2he.4 2i1.t 2i2.4 2ic.t 2id.4 2ii.t ",
     "2ik.5 2il.4 2im.6 2in.5 2io.6 2it.t 2iu.5 2iv.6 2ix.t 2iy.6 2j0.5 2j2.t 2j9.6 2jb.t 2jh.4 2jj.t ",
     "2jk.4 2jm.5 2jo.t 2jq.8 2k0.t 2k1.4 2k3.6 2k4.t 2kg.5 2ki.6 2kk.4 2kt.t 2ku.4 2kx.t 2ky.4 2m3.5 ",
     "2m5.4 2m6.6 2m9.5 2md.t 2me.6 2mh.t 2mi.6 2ml.5 2mm.4 2mn.l 2mo.t 2ms.4 2mv.6 2mw.a 2n3.4 2n6.5 ",
     "2n8.t 2na.8 2nk.a 2nt.l 2nu.4 2o0.t 2o1.5 2o2.6 2o4.t 2o5.4 2on.t 2oq.4 2pe.t 2pf.4 2po.t 2pp.4 ",
     "2pq.t 2ps.4 2pz.t 2q2.5 2q3.t 2q7.6 2qa.5 2qd.t 2qe.5 2qf.t 2qg.6 2qo.t 2qu.8 2r4.t 2r6.6 2r8.h ",
     "2r9.t 2rl.4 2sx.5 2sy.4 2t0.5 2t7.t 2tb.j 2tc.4 2ti.3 2tj.5 2tr.h 2ts.8 2u2.h 2u4.t 2v5.4 2v7.t ",
     "2v8.4 2v9.t 2va.4 2vf.t 2vg.4 2w4.t 2w5.4 2w6.t 2w7.4 2wh.5 2wi.4 2wk.5 2wt.4 2wu.t 2ww.4 2x1.t ",
     "2x2.3 2x3.t 2x4.5 2xb.t 2xc.8 2xm.t 2xo.4 2xs.t 2yo.4 2yp.l 2ys.h 2z7.l 2z8.h 2z9.l 2zc.5 2ze.l ",
     "2zk.8 2zu.a 304.l 305.5 306.l 307.5 308.l 309.5 30a.d 30b.e 30c.d 30d.e 30e.6 30g.4 30o.t 30p.4 ",
     "31p.t 31t.5 327.6 328.5 32d.h 32e.5 32g.4 32l.5 32w.t 32x.5 33x.t 33y.l 346.5 347.l 34d.t 34e.l ",
     "34g.h 34l.l 34p.h 34r.t 35s.4 36z.6 371.5 375.6 376.5 37c.6 37d.5 37f.6 37h.5 37j.4 37k.8 37u.h ",
     "380.4 386.6 388.5 38a.4 38e.5 38h.4 38i.6 38l.4 38n.6 38u.4 38x.5 391.4 39e.5 39f.6 39h.5 39j.6 ",
     "39p.5 39q.4 39r.6 39s.8 3a2.6 3a5.5 3a6.l 3a8.0 3ba.t 3bb.0 3bc.t 3bh.0 3bi.t 3bk.1 3cr.h 3cs.3 ",
     "3ct.1 3cw.4 3m1.t 3m2.4 3m6.t 3m8.4 3mf.t 3mg.4 3mh.t 3mi.4 3mm.t 3mo.4 3nt.t 3nu.4 3ny.t 3o0.4 ",
     "3ox.t 3oy.4 3p2.t 3p4.4 3pb.t 3pc.4 3pd.t 3pe.4 3pi.t 3pk.4 3pz.t 3q0.4 3rl.t 3rm.4 3rq.t 3rs.4 ",
     "3tn.t 3tp.5 3ts.h 3u1.a 3ul.t 3uo.4 3v4.l 3ve.t 3vk.0 3xy.t 3y0.1 3y6.t 3y8.c 3y9.4 4fh.l 4fi.h ",
     "4fj.4 4g0.m 4g1.4 4gr.d 4gs.e 4gt.t 4gw.4 4iz.h 4j2.9 4j5.4 4jd.t 4jk.4 4k2.5 4k5.6 4k6.t 4kf.4 ",
     "4ky.5 4l0.6 4l1.h 4l3.t 4lc.4 4lu.5 4lw.t 4m8.4 4ml.t 4mm.4 4mp.t 4mq.5 4ms.t 4n4.4 4ok.5 4om.6 ",
     "4on.5 4ou.6 4p2.5 4p3.6 4p5.5 4pg.h 4pj.3 4pk.h 4pn.j 4po.4 4pp.5 4pq.t 4ps.8 4q2.t 4q8.a 4qi.t ",
     "4qo.h 4qu.c 4qv.h 4qz.5 4r2.q 4r3.5 4r4.8 4re.t 4rk.4 4sj.3 4sk.4 4u1.t 4u8.4 4ud.5 4uf.4 4vd.5 ",
     "4ve.4 4vf.t 4vk.4 4xi.t 4xs.4 4yn.t 4yo.5 4yr.6 4yv.5 4yx.6 4z0.t 4z4.6 4z6.5 4z7.6 4zd.5 4zg.t ",
     "4zk.l 4zl.t 4zo.h 4zq.8 500.4 50u.t 50w.4 511.t 51c.4 52k.t 52o.4 53e.t 53k.8 53u.a 53v.t 53y.l ",
     "54w.4 55j.5 55l.6 55n.5 55o.t 55q.h 55s.4 579.6 57a.5 57b.6 57c.5 57j.t 57k.5 57l.6 57m.5 57n.6 ",
     "57p.5 57x.6 583.5 58d.t 58f.5 58g.8 58q.t 58w.8 596.t 59c.h 59j.3 59k.h 59q.t 59s.5 5a6.7 5a7.5 ",
     "5an.t 5c0.5 5c4.6 5c5.4 5dg.5 5dh.6 5di.5 5dn.6 5do.5 5dp.6 5du.5 5dv.6 5dx.4 5e5.t 5e8.8 5ei.h ",
     "5ep.l 5ez.5 5f8.l 5fh.h 5fj.t 5fk.5 5fm.6 5fn.4 5gh.6 5gi.5 5gm.6 5go.5 5gq.6 5gr.5 5gu.4 5gw.8 ",
     "5h6.4 5ie.5 5if.6 5ig.5 5ii.6 5il.5 5im.6 5in.5 5iq.6 5is.t 5j0.h 5j4.4 5k4.6 5kc.5 5kk.6 5km.5 ",
     "5ko.t 5kr.h 5kw.8 5l6.t 5l9.4 5lc.8 5lm.4 5mg.3 5mm.h 5mo.1 5mx.t 5n4.0 5ob.t 5od.0 5og.h 5oo.t ",
     "5ow.5 5oz.h 5p0.5 5pd.6 5pe.5 5pl.4 5pp.5 5pq.4 5pw.5 5px.4 5pz.6 5q0.5 5q2.4 5q3.t 5q8.1 5rg.3 ",
     "5t7.1 5tk.3 5tl.1 5uj.3 5vk.5 5xc.0 5xd.1 5xe.0 5xf.1 5xg.0 5xh.1 5xi.0 5xj.1 5xk.0 5xl.1 5xm.0 ",
     "5xn.1 5xo.0 5xp.1 5xq.0 5xr.1 5xs.0 5xt.1 5xu.0 5xv.1 5xw.0 5xx.1 5xy.0 5xz.1 5y0.0 5y1.1 5y2.0 ",
     "5y3.1 5y4.0 5y5.1 5y6.0 5y7.1 5y8.0 5y9.1 5ya.0 5yb.1 5yc.0 5yd.1 5ye.0 5yf.1 5yg.0 5yh.1 5yi.0 ",
     "5yj.1 5yk.0 5yl.1 5ym.0 5yn.1 5yo.0 5yp.1 5yq.0 5yr.1 5ys.0 5yt.1 5yu.0 5yv.1 5yw.0 5yx.1 5yy.0 ",
     "5yz.1 5z0.0 5z1.1 5z2.0 5z3.1 5z4.0 5z5.1 5z6.0 5z7.1 5z8.0 5z9.1 5za.0 5zb.1 5zc.0 5zd.1 5ze.0 ",
     "5zf.1 5zg.0 5zh.1 5zi.0 5zj.1 5zk.0 5zl.1 5zm.0 5zn.1 5zo.0 5zp.1 5zq.0 5zr.1 5zs.0 5zt.1 5zu.0 ",
     "5zv.1 5zw.0 5zx.1 5zy.0 5zz.1 600.0 601.1 602.0 603.1 604.0 605.1 606.0 607.1 608.0 609.1 60a.0 ",
     "60b.1 60c.0 60d.1 60e.0 60f.1 60g.0 60h.1 60i.0 60j.1 60k.0 60l.1 60m.0 60n.1 60o.0 60p.1 60q.0 ",
     "60r.1 60s.0 60t.1 60u.0 60v.1 60w.0 60x.1 60y.0 60z.1 610.0 611.1 612.0 613.1 614.0 615.1 616.0 ",
     "617.1 618.0 619.1 61a.0 61b.1 61c.0 61d.1 61e.0 61f.1 61g.0 61h.1 61q.0 61r.1 61s.0 61t.1 61u.0 ",
     "61v.1 61w.0 61x.1 61y.0 61z.1 620.0 621.1 622.0 623.1 624.0 625.1 626.0 627.1 628.0 629.1 62a.0 ",
     "62b.1 62c.0 62d.1 62e.0 62f.1 62g.0 62h.1 62i.0 62j.1 62k.0 62l.1 62m.0 62n.1 62o.0 62p.1 62q.0 ",
     "62r.1 62s.0 62t.1 62u.0 62v.1 62w.0 62x.1 62y.0 62z.1 630.0 631.1 632.0 633.1 634.0 635.1 636.0 ",
     "637.1 638.0 639.1 63a.0 63b.1 63c.0 63d.1 63e.0 63f.1 63g.0 63h.1 63i.0 63j.1 63k.0 63l.1 63m.0 ",
     "63n.1 63o.0 63p.1 63q.0 63r.1 63s.0 63t.1 63u.0 63v.1 63w.0 63x.1 63y.0 63z.1 640.0 641.1 642.0 ",
     "643.1 644.0 645.1 646.0 647.1 648.0 649.1 64a.0 64b.1 64c.0 64d.1 64e.0 64f.1 64o.0 64w.1 652.t ",
     "654.0 65a.t 65c.1 65k.0 65s.1 660.0 668.1 66e.t 66g.0 66m.t 66o.1 66w.t 66x.0 66y.t 66z.0 670.t ",
     "671.0 672.t 673.0 674.1 67c.0 67k.1 67y.t 680.1 688.2 68g.1 68o.2 68w.1 694.2 69c.1 69h.t 69i.1 ",
     "69k.0 69o.2 69p.k 69q.1 69r.k 69u.1 69x.t 69y.1 6a0.0 6a4.2 6a5.k 6a8.1 6ac.t 6ae.1 6ag.0 6ak.t ",
     "6al.k 6ao.1 6aw.0 6b1.k 6b4.t 6b6.1 6b9.t 6ba.1 6bc.0 6bg.2 6bh.k 6bj.t 6bk.m 6bv.q 6c0.c 6c6.h ",
     "6c8.f 6c9.g 6ca.d 6cb.f 6cd.g 6ce.d 6cf.f 6cg.h 6co.n 6cp.o 6cq.q 6cv.m 6cw.h 6d5.f 6d6.g 6d7.h ",
     "6db.b 6dd.h 6dg.i 6dh.d 6di.e 6dj.h 6du.i 6dv.h 6dw.b 6dx.h 6e7.m 6e8.q 6ed.t 6ee.q 6eo.a 6ep.3 ",
     "6eq.t 6es.a 6ey.i 6f1.d 6f2.e 6f3.3 6f4.a 6fe.i 6fh.d 6fi.e 6fj.t 6fk.3 6fx.t 6g0.j 6gx.t 6hc.5 ",
     "6hp.7 6ht.5 6hu.7 6hx.5 6i9.t 6io.l 6iq.0 6ir.l 6iv.0 6iw.l 6iy.1 6iz.0 6j2.1 6j4.0 6j7.1 6j8.l ",
     "6j9.0 6ja.l 6jc.i 6jd.0 6ji.l 6jo.0 6jp.l 6jq.0 6jr.l 6js.0 6jt.l 6ju.0 6jy.l 6jz.1 6k0.0 6k4.1 ",
     "6k5.4 6k9.1 6ka.l 6kc.1 6ke.0 6kg.i 6kl.0 6km.1 6kq.l 6kr.i 6ks.l 6ku.1 6kv.l 6kw.a 6lc.9 6mb.0 ",
     "6mc.1 6md.9 6mh.a 6mi.l 6mk.t 6mo.i 6mt.l 6my.i 6n0.l 6n4.i 6n5.l 6n7.i 6n8.l 6na.i 6nb.l 6ni.i ",
     "6nj.l 6oe.i 6og.l 6oi.i 6oj.l 6ok.i 6ol.l 6pg.i 6ww.l 6x4.d 6x5.e 6x6.d 6x7.e 6x8.l 6xs.i 6xu.l ",
     "6y1.d 6y2.e 6y3.l 70c.i 70d.l 717.i 71w.l 730.i 736.l 753.t 75s.l 763.t 76o.a 78c.l 7ai.a 7b4.l ",
     "7g7.i 7g8.l 7gh.i 7gi.l 7i0.i 7i8.l 7lb.i 7lc.l 7s8.d 7s9.e 7sa.d 7sb.e 7sc.d 7sd.e 7se.d 7sf.e ",
     "7sg.d 7sh.e 7si.d 7sj.e 7sk.d 7sl.e 7sm.a 7tg.l 7uo.i 7ut.d 7uu.e 7uv.i 7vq.d 7vr.e 7vs.d 7vt.e ",
     "7vu.d 7vv.e 7vw.d 7vx.e 7vy.d 7vz.e 7w0.i 7wg.l 83k.i 877.d 878.e 879.d 87a.e 87b.d 87c.e 87d.d ",
     "87e.e 87f.d 87g.e 87h.d 87i.e 87j.d 87k.e 87l.d 87m.e 87n.d 87o.e 87p.d 87q.e 87r.d 87s.e 87t.i ",
     "89k.d 89l.e 89m.d 89n.e 89o.i 8ak.d 8al.e 8am.i 8hs.l 8j4.i 8jp.l 8jr.i 8jx.l 8l0.t 8l2.l 8ly.t ",
     "8lz.l 8ow.0 8q8.1 8rk.0 8rl.1 8rm.0 8rp.1 8rr.0 8rs.1 8rt.0 8ru.1 8rv.0 8rw.1 8rx.0 8s1.1 8s2.0 ",
     "8s3.1 8s5.0 8s6.1 8sc.3 8se.0 8sh.1 8si.0 8sj.1 8sk.0 8sl.1 8sm.0 8sn.1 8so.0 8sp.1 8sq.0 8sr.1 ",
     "8ss.0 8st.1 8su.0 8sv.1 8sw.0 8sx.1 8sy.0 8sz.1 8t0.0 8t1.1 8t2.0 8t3.1 8t4.0 8t5.1 8t6.0 8t7.1 ",
     "8t8.0 8t9.1 8ta.0 8tb.1 8tc.0 8td.1 8te.0 8tf.1 8tg.0 8th.1 8ti.0 8tj.1 8tk.0 8tl.1 8tm.0 8tn.1 ",
     "8to.0 8tp.1 8tq.0 8tr.1 8ts.0 8tt.1 8tu.0 8tv.1 8tw.0 8tx.1 8ty.0 8tz.1 8u0.0 8u1.1 8u2.0 8u3.1 ",
     "8u4.0 8u5.1 8u6.0 8u7.1 8u8.0 8u9.1 8ua.0 8ub.1 8uc.0 8ud.1 8ue.0 8uf.1 8ug.0 8uh.1 8ui.0 8uj.1 ",
     "8uk.0 8ul.1 8um.0 8un.1 8uo.0 8up.1 8uq.0 8ur.1 8us.0 8ut.1 8uu.0 8uv.1 8uw.0 8ux.1 8uy.0 8uz.1 ",
     "8v0.0 8v1.1 8v2.0 8v3.1 8v4.0 8v5.1 8v6.0 8v7.1 8v9.l 8vf.0 8vg.1 8vh.0 8vi.1 8vj.5 8vm.0 8vn.1 ",
     "8vo.t 8vt.h 8vx.a 8vy.h 8w0.1 8x2.t 8x3.1 8x4.t 8x9.1 8xa.t 8xc.4 8yw.t 8z3.3 8z4.h 8z5.t 8zj.5 ",
     "8zk.4 907.t 90g.4 90n.t 90o.4 90v.t 90w.4 913.t 914.4 91b.t 91c.4 91j.t 91k.4 91r.t 91s.4 91z.t ",
     "920.4 927.t 928.5 934.h 936.f 937.g 938.f 939.g 93a.h 93d.f 93e.g 93f.h 93g.f 93h.g 93i.h 93r.c ",
     "93s.h 93u.c 93v.h 93w.f 93x.g 93y.h 940.f 941.g 942.d 943.e 944.d 945.e 946.d 947.e 948.d 949.e ",
     "94a.h 94f.3 94g.h 94q.c 94s.h 94w.c 94x.h 94y.d 94z.h 95c.l 95e.h 95h.d 95i.e 95j.d 95k.e 95l.d ",
     "95m.e 95n.d 95o.e 95p.c 95q.t 96o.l 97e.t 97f.l 99w.t 9a8.l 9g6.t 9gw.l 9h8.t 9hc.m 9hd.h 9hg.l ",
     "9hh.3 9hi.4 9hj.9 9hk.d 9hl.e 9hm.d 9hn.e 9ho.d 9hp.e 9hq.d 9hr.e 9hs.d 9ht.e 9hu.l 9hw.d 9hx.e ",
     "9hy.d 9hz.e 9i0.d 9i1.e 9i2.d 9i3.e 9i4.c 9i5.d 9i6.e 9i8.l 9i9.9 9ii.5 9im.6 9io.c 9ip.3 9iu.l ",
     "9iw.9 9iz.3 9j0.4 9j1.h 9j2.l 9j4.t 9j5.4 9lj.t 9ll.5 9ln.k 9lp.3 9lr.4 9ls.c 9lt.4 9ob.h 9oc.3 ",
     "9of.4 9og.t 9ol.4 9ps.t 9pt.4 9sf.t 9sg.l 9si.a 9sm.l 9sw.4 9ts.l 9us.t 9v4.4 9vk.l 9wf.t 9wg.a ",
     "9wq.l 9xk.a 9xs.l 9xt.a 9y8.l 9z4.a 9ze.l a0h.a a0w.l a9s.4 fcw.l feo.4 vmd.3 vme.4 wi5.t wi8.l ",
     "wjr.t wk0.4 wl4.3 wla.h wlc.4 wss.3 wst.h wsw.4 wtc.8 wtm.4 wto.t wu8.0 wu9.1 wua.0 wub.1 wuc.0 ",
     "wud.1 wue.0 wuf.1 wug.0 wuh.1 wui.0 wuj.1 wuk.0 wul.1 wum.0 wun.1 wuo.0 wup.1 wuq.0 wur.1 wus.0 ",
     "wut.1 wuu.0 wuv.1 wuw.0 wux.1 wuy.0 wuz.1 wv0.0 wv1.1 wv2.0 wv3.1 wv4.0 wv5.1 wv6.0 wv7.1 wv8.0 ",
     "wv9.1 wva.0 wvb.1 wvc.0 wvd.1 wve.0 wvf.1 wvg.0 wvh.1 wvi.4 wvj.5 wvk.7 wvn.h wvo.5 wvy.h wvz.3 ",
     "ww0.0 ww1.1 ww2.0 ww3.1 ww4.0 ww5.1 ww6.0 ww7.1 ww8.0 ww9.1 wwa.0 wwb.1 wwc.0 wwd.1 wwe.0 wwf.1 ",
     "wwg.0 wwh.1 wwi.0 wwj.1 wwk.0 wwl.1 wwm.0 wwn.1 wwo.0 wwp.1 wwq.0 wwr.1 wws.3 wwu.5 www.4 wyu.9 ",
     "wz4.5 wz6.h wzc.t wzk.k x07.3 x0g.k x0i.0 x0j.1 x0k.0 x0l.1 x0m.0 x0n.1 x0o.0 x0p.1 x0q.0 x0r.1 ",
     "x0s.0 x0t.1 x0u.0 x0v.1 x0y.0 x0z.1 x10.0 x11.1 x12.0 x13.1 x14.0 x15.1 x16.0 x17.1 x18.0 x19.1 ",
     "x1a.0 x1b.1 x1c.0 x1d.1 x1e.0 x1f.1 x1g.0 x1h.1 x1i.0 x1j.1 x1k.0 x1l.1 x1m.0 x1n.1 x1o.0 x1p.1 ",
     "x1q.0 x1r.1 x1s.0 x1t.1 x1u.0 x1v.1 x1w.0 x1x.1 x1y.0 x1z.1 x20.0 x21.1 x22.0 x23.1 x24.0 x25.1 ",
     "x26.0 x27.1 x28.0 x29.1 x2a.0 x2b.1 x2c.0 x2d.1 x2e.0 x2f.1 x2g.0 x2h.1 x2i.0 x2j.1 x2k.0 x2l.1 ",
     "x2m.0 x2n.1 x2o.3 x2p.1 x2x.0 x2y.1 x2z.0 x30.1 x31.0 x33.1 x34.0 x35.1 x36.0 x37.1 x38.0 x39.1 ",
     "x3a.0 x3b.1 x3c.3 x3d.k x3f.0 x3g.1 x3h.0 x3i.1 x3j.4 x3k.0 x3l.1 x3m.0 x3n.1 x3q.0 x3r.1 x3s.0 ",
     "x3t.1 x3u.0 x3v.1 x3w.0 x3x.1 x3y.0 x3z.1 x40.0 x41.1 x42.0 x43.1 x44.0 x45.1 x46.0 x47.1 x48.0 ",
     "x49.1 x4a.0 x4f.1 x4g.0 x4l.1 x4m.0 x4n.1 x4o.0 x4p.1 x4q.0 x4r.1 x4s.0 x4t.1 x4u.0 x4v.1 x4w.0 ",
     "x4x.1 x4y.0 x4z.1 x50.0 x54.1 x55.0 x56.1 x57.t x5c.0 x5d.1 x5e.t x5f.1 x5g.t x5h.1 x5i.0 x5j.1 ",
     "x5k.0 x5l.1 x5m.t x6a.3 x6d.0 x6e.1 x6f.4 x6g.3 x6i.1 x6j.4 x6q.5 x6r.4 x6u.5 x6v.4 x6z.5 x70.4 ",
     "x7n.6 x7p.5 x7r.6 x7s.l x7w.5 x7x.t x80.a x86.l x88.j x89.l x8a.t x8g.4 x9w.h xa0.t xa8.6 xaa.4 ",
     "xbo.6 xc4.5 xc6.t xce.h xcg.8 xcq.t xcw.5 xde.4 xdk.h xdn.4 xdo.h xdp.4 xdr.5 xds.8 xe2.4 xeu.5 ",
     "xf2.h xf4.4 xfr.5 xg2.6 xg4.t xgf.h xgg.4 xh9.t xhc.5 xhf.6 xhg.4 xir.5 xis.6 xiu.5 xiy.6 xj0.5 ",
     "xj2.6 xj5.h xji.t xjj.3 xjk.8 xju.t xjy.h xk0.4 xk5.5 xk6.3 xk7.4 xkg.8 xkq.4 xkv.t xkw.4 xm1.5 ",
     "xm7.6 xm9.5 xmb.6 xmd.5 xmf.t xmo.4 xmr.5 xms.4 xn0.5 xn1.6 xn2.t xn4.8 xne.t xng.h xnk.4 xo0.3 ",
     "xo1.4 xo7.l xoa.4 xob.6 xoc.5 xod.6 xoe.4 xps.5 xpt.4 xpu.5 xpx.4 xpz.5 xq1.4 xq6.5 xq8.4 xq9.5 ",
     "xqa.4 xqb.t xqz.4 xr1.3 xr2.h xr4.4 xrf.6 xrg.5 xri.6 xrk.h xrm.4 xrn.3 xrp.6 xrq.5 xrr.t xs1.4 ",
     "xs7.t xs9.4 xsf.t xsh.4 xsn.t xsw.4 xt3.t xt4.4 xtb.t xtc.1 xuj.k xuk.3 xuo.1 xux.3 xuy.k xv0.t ",
     "xv4.1 xxc.4 xyb.6 xyd.5 xye.6 xyg.5 xyh.6 xyj.h xyk.6 xyl.5 xym.t xyo.8 xyy.t xz4.4 16lg.t ",
     "16ls.4 16mf.t 16mj.4 16nw.t 16o0.r 188w.s 1d6o.4 1dgu.t 1dgw.4 1dju.t 1dkw.1 1dl3.t 1dlf.1 ",
     "1dlk.t 1dlp.4 1dlq.5 1dlr.4 1dm1.i 1dm2.4 1dmf.t 1dmg.4 1dml.t 1dmm.4 1dmn.t 1dmo.4 1dmq.t ",
     "1dmr.4 1dmt.t 1dmu.4 1dpu.k 1dqb.t 1dqr.4 1e0u.e 1e0v.d 1e0w.l 1e1c.4 1e34.t 1e36.4 1e4o.t ",
     "1e4v.l 1e4w.t 1e5s.4 1e64.j 1e65.l 1e68.5 1e6o.h 1e6v.d 1e6w.e 1e6x.h 1e6y.t 1e74.5 1e7k.h ",
     "1e7l.c 1e7n.b 1e7p.d 1e7q.e 1e7r.d 1e7s.e 1e7t.d 1e7u.e 1e7v.d 1e7w.e 1e7x.d 1e7y.e 1e7z.d ",
     "1e80.e 1e81.d 1e82.e 1e83.d 1e84.e 1e85.h 1e87.d 1e88.e 1e89.h 1e8d.b 1e8g.h 1e8j.t 1e8k.h ",
     "1e8o.c 1e8p.d 1e8q.e 1e8r.d 1e8s.e 1e8t.d 1e8u.e 1e8v.h 1e8y.i 1e8z.c 1e90.i 1e93.t 1e94.h ",
     "1e95.j 1e96.h 1e98.t 1e9c.4 1e9h.t 1e9i.4 1ed9.t 1edb.q 1edc.t 1edd.h 1edg.j 1edh.h 1edk.d ",
     "1edl.e 1edm.h 1edn.i 1edo.h 1edp.c 1edq.h 1eds.8 1ee2.h 1ee4.i 1ee7.h 1ee9.0 1eez.d 1ef0.h ",
     "1ef1.e 1ef2.k 1ef3.b 1ef4.k 1ef5.1 1efv.d 1efw.i 1efx.e 1efy.i 1efz.d 1eg0.e 1eg1.h 1eg2.d ",
     "1eg3.e 1eg4.h 1eg6.4 1egg.3 1egh.4 1ehq.3 1ehs.4 1ein.t 1eiq.4 1eiw.t 1eiy.4 1ej4.t 1ej6.4 ",
     "1ejc.t 1eje.4 1ejh.t 1ejk.j 1ejm.i 1ejn.k 1ejo.l 1ejp.j 1ejr.t 1ejs.l 1ejt.i 1ejx.l 1ejz.t ",
     "1ek9.q 1ekc.l 1eke.t 1ekg.4 1eks.t 1ekt.4 1elj.t 1elk.4 1em3.t 1em4.4 1em6.t 1em7.4 1emm.t ",
     "1emo.4 1en2.t 1eo0.4 1erf.t 1erk.h 1ern.t 1err.a 1et0.t 1et3.l 1etc.9 1eut.a 1eux.l 1eve.a ",
     "1evg.l 1evj.t 1evk.l 1evx.t 1ew0.l 1ew1.t 1exc.l 1eyl.5 1eym.t 1f28.4 1f31.t 1f34.4 1f4h.t ",
     "1f4w.5 1f4x.a 1f5o.t 1f5s.4 1f6o.a 1f6s.t 1f71.4 1f7l.9 1f7m.4 1f7u.9 1f7v.t 1f80.4 1f92.5 ",
     "1f97.t 1f9c.4 1fa6.t 1fa7.h 1fa8.4 1fb8.t 1fbc.4 1fbk.h 1fbl.9 1fbq.t 1fcw.0 1fe0.1 1ff4.4 ",
     "1fha.t 1fhc.8 1fhm.t 1fhs.0 1fis.t 1fiw.1 1fjw.t 1fk0.4 1fl4.t 1flc.4 1fms.t 1fn3.h 1fn4.0 ",
     "1fnf.t 1fng.0 1fnv.t 1fnw.0 1fo3.t 1fo4.0 1fo6.t 1fo7.1 1foi.t 1foj.1 1foy.t 1foz.1 1fp6.t ",
     "1fp7.1 1fp9.t 1fr4.4 1fzr.t 1g00.4 1g0m.t 1g0w.4 1g14.t 1g1s.3 1g1y.t 1g1z.3 1g35.t 1g36.3 ",
     "1g3f.t 1g5c.4 1g5i.t 1g5k.4 1g5l.t 1g5m.4 1g6u.t 1g6v.4 1g6x.t 1g70.4 1g71.t 1g73.4 1g7q.t ",
     "1g7r.h 1g7s.a 1g80.4 1g8n.l 1g8p.a 1g8w.4 1g9r.t 1g9z.a 1ga8.t 1gbk.4 1gc3.t 1gc4.4 1gc6.t ",
     "1gcb.a 1gcg.4 1gd2.a 1gd8.t 1gdb.h 1gdc.4 1ge2.t 1ge7.h 1ge8.t 1gg0.4 1ghk.t 1gho.a 1ghq.4 ",
     "1ghs.a 1gi8.t 1gia.a 1gjk.4 1gjl.5 1gjo.t 1gjp.5 1gjr.t 1gjw.5 1gk0.4 1gk4.t 1gk5.4 1gk8.t ",
     "1gk9.4 1gl2.t 1gl4.5 1gl7.t 1glb.5 1glc.a 1gll.t 1gls.h 1gm1.t 1gm8.4 1gn1.a 1gn3.h 1gn4.4 ",
     "1gnx.a 1go0.t 1gow.4 1gp4.l 1gp5.4 1gpx.5 1gpz.t 1gq3.a 1gq8.h 1gqf.t 1gqo.4 1gs6.t 1gs9.h ",
     "1gsg.4 1gt2.t 1gt4.a 1gtc.4 1gtv.t 1gu0.a 1gu8.4 1guq.t 1gux.h 1gv1.t 1gvd.a 1gvk.t 1gxs.4 ",
     "1gzt.t 1h1c.0 1h2r.t 1h34.1 1h4j.t 1h4q.a 1h4w.4 1h5w.5 1h60.t 1h68.8 1h6i.t 1heo.a 1hfj.t ",
     "1hfk.4 1hgq.t 1hgr.5 1hgt.c 1hgu.t 1hgw.4 1hgy.t 1hj1.5 1hj4.4 1hjx.a 1hk7.4 1hk8.t 1hkg.4 ",
     "1hl2.5 1hld.a 1hlh.h 1hlm.t 1hm8.4 1hmq.5 1hmu.h 1hmy.t 1ho0.4 1hol.a 1hos.t 1hpc.4 1hpz.t ",
     "1hq8.6 1hq9.5 1hqa.6 1hqb.4 1hrs.5 1hs7.h 1hse.t 1hsi.a 1ht2.8 1htc.5 1htd.4 1htf.5 1hth.4 ",
     "1hti.t 1htr.5 1htu.6 1htv.4 1hv4.6 1hv7.5 1hvb.6 1hvd.5 1hvf.h 1hvh.q 1hvi.h 1hvm.5 1hvn.t ",
     "1hvx.q 1hvy.t 1hw0.4 1hwp.t 1hww.8 1hx6.t 1hxc.5 1hxf.4 1hyf.5 1hyk.6 1hyl.5 1hyt.t 1hyu.8 ",
     "1hz4.h 1hz8.4 1hz9.6 1hzb.4 1hzc.t 1hzk.4 1i0j.5 1i0k.h 1i0m.4 1i0n.t 1i0w.5 1i0y.6 1i0z.4 ",
     "1i2b.6 1i2e.5 1i2n.6 1i2p.4 1i2t.h 1i2x.5 1i31.h 1i32.6 1i33.5 1i34.8 1i3e.4 1i3f.h 1i3g.4 ",
     "1i3h.h 1i3k.t 1i3l.a 1i45.t 1i4g.4 1i4y.t 1i4z.4 1i5o.6 1i5r.5 1i5u.6 1i5w.5 1i5x.6 1i5y.5 ",
     "1i60.h 1i66.5 1i67.4 1i69.5 1i6a.t 1i80.4 1i87.t 1i88.4 1i89.t 1i8a.4 1i8e.t 1i8f.4 1i8u.t ",
     "1i8v.4 1i95.h 1i96.t 1i9c.4 1ian.5 1iao.6 1iar.5 1iaz.t 1ib4.8 1ibe.t 1ibk.5 1ibm.6 1ibo.t ",
     "1ibp.4 1ibx.t 1ibz.4 1ic1.t 1ic3.4 1icp.t 1icq.4 1icx.t 1icy.4 1id0.t 1id1.4 1id6.t 1id7.5 ",
     "1id9.4 1ida.6 1idc.5 1idd.6 1idh.t 1idj.6 1idl.t 1idn.6 1idq.t 1ids.4 1idt.t 1idz.6 1ie0.t ",
     "1ie5.4 1iea.6 1iec.t 1iee.5 1iel.t 1ieo.5 1iet.t 1iio.4 1ik5.6 1ik8.5 1ikg.6 1iki.5 1ikl.6 ",
     "1ikm.5 1ikn.4 1ikr.h 1ikw.8 1il6.h 1il8.t 1il9.h 1ila.5 1ilb.4 1ile.t 1im8.4 1ink.6 1inn.5 ",
     "1int.6 1inu.5 1inv.6 1inz.5 1io1.6 1io2.5 1io4.4 1io6.h 1io7.4 1io8.t 1iog.8 1ioq.t 1itc.4 ",
     "1iun.6 1iuq.5 1iuu.t 1iuw.6 1iv0.5 1iv2.6 1iv3.5 1iv5.h 1ivs.4 1ivw.5 1ivy.t 1iww.4 1iy8.6 ",
     "1iyb.5 1iyj.6 1iyl.5 1iym.6 1iyn.5 1iyp.h 1iys.4 1iyt.t 1iz4.8 1ize.t 1izk.h 1izx.t 1j0g.4 ",
     "1j1n.5 1j1o.6 1j1p.5 1j1q.6 1j1s.5 1j1y.6 1j1z.5 1j20.4 1j21.h 1j22.t 1j28.8 1j2i.t 1j40.4 ",
     "1j4r.t 1j4t.5 1j4w.6 1j4y.5 1j52.6 1j53.5 1j58.t 1j5c.8 1j5m.a 1j5o.h 1j5r.l 1j5s.4 1j5z.t ",
     "1jb4.4 1jcc.6 1jcf.5 1jco.6 1jcp.5 1jcr.h 1jcs.t 1jfk.0 1jgg.1 1jhc.8 1jhm.a 1jhv.t 1ji7.4 ",
     "1jif.t 1jih.4 1jii.t 1jik.4 1jis.t 1jit.4 1jiv.t 1jiw.4 1jjk.6 1jjq.t 1jjr.6 1jjt.t 1jjv.5 ",
     "1jjx.6 1jjy.5 1jjz.4 1jk0.6 1jk1.4 1jk2.6 1jk3.5 1jk4.h 1jk7.t 1jkg.8 1jkq.t 1jmo.4 1jmw.t ",
     "1jmy.4 1jo1.6 1jo4.5 1jo8.t 1joa.5 1joc.6 1jog.5 1joh.4 1joi.h 1joj.4 1jok.6 1jol.t 1jpc.4 ",
     "1jpd.5 1jpn.4 1jqr.5 1jqx.6 1jqy.4 1jqz.5 1jr3.h 1jrb.5 1jrc.t 1jrk.4 1jrl.5 1jrr.6 1jrt.5 ",
     "1jrw.4 1jt6.5 1jtj.6 1jtk.5 1jtm.h 1jtp.4 1jtq.h 1jtv.t 1ju8.4 1jw9.t 1jwg.h 1jwq.t 1k3k.4 ",
     "1k3t.t 1k3u.4 1k4v.6 1k4w.5 1k53.t 1k54.5 1k5a.6 1k5b.5 1k5c.4 1k5d.h 1k5i.t 1k5s.8 1k62.a ",
     "1k6l.t 1k6o.h 1k6q.4 1k7k.t 1k7m.5 1k88.t 1k89.6 1k8a.5 1k8h.6 1k8i.5 1k8k.6 1k8l.5 1k8n.t ",
     "1kao.4 1kav.t 1kaw.4 1kay.t 1kaz.4 1kc1.5 1kc7.t 1kca.5 1kcb.t 1kcc.5 1kce.t 1kcf.5 1kcm.4 ",
     "1kcn.5 1kco.t 1kcw.8 1kd6.t 1kdc.4 1kdi.t 1kdj.4 1kdl.t 1kdm.4 1kei.6 1ken.t 1keo.5 1keq.t ",
     "1ker.6 1ket.5 1keu.6 1kev.5 1kew.4 1kex.t 1kf4.8 1kfe.t 1ko0.4 1koj.5 1kol.6 1kon.h 1kop.t ",
     "1kow.5 1koy.4 1koz.6 1kp0.4 1kpd.t 1kpe.4 1kqc.6 1kqe.5 1kqj.t 1kqm.6 1kqo.5 1kqp.6 1kqq.5 ",
     "1kqr.h 1kr4.8 1kre.t 1kts.4 1ktt.t 1ku8.a 1kut.l 1kv1.j 1kv5.l 1kvm.t 1kvz.h 1kw0.4 1llm.t ",
     "1log.9 1lrj.t 1lrk.h 1lrp.t 1ls0.4 1lxg.t 1nyo.4 1o1d.h 1o1f.t 1o1s.4 1ovk.q 1ow0.5 1ow1.4 ",
     "1ow7.5 1owm.t 1s00.4 1sg7.t 1z40.4 1zjt.t 1zk0.4 1zkv.t 1zkw.8 1zl6.t 1zla.h 1zlc.4 1znj.t ",
     "1znk.8 1znu.t 1zo0.4 1zou.t 1zow.5 1zp1.h 1zp2.t 1zpc.4 1zqo.5 1zqv.h 1zr0.l 1zr4.3 1zr8.h ",
     "1zr9.l 1zra.t 1zrk.8 1zru.t 1zrv.a 1zs2.t 1zs3.4 1zso.t 1zst.4 1ztc.t 20cg.0 20dc.1 20e8.a ",
     "20ev.h 20ez.t 20hs.4 20jv.t 20jz.5 20k0.4 20k1.6 20lk.t 20lr.5 20lv.3 20m8.t 20o0.3 20o2.h ",
     "20o3.3 20o4.5 20o5.t 20og.6 20oi.t 20ow.4 25fc.t 25fk.4 26dy.t 26f4.4 26fd.t 2dbk.3 2dbo.t ",
     "2dbp.3 2dbw.t 2dbx.3 2dbz.t 2dc0.4 2dk3.t 2dki.4 2dkj.t 2dlc.4 2dlf.t 2dlh.4 2dli.t 2dlw.4 ",
     "2dm0.t 2dm8.4 2dx8.t 2fpc.4 2fsb.t 2fsg.4 2fst.t 2fsw.4 2ft5.t 2ftc.4 2ftm.t 2fto.l 2ftp.5 ",
     "2ftr.h 2fts.q 2ftw.t 2jgg.5 2jhq.t 2jhs.5 2jif.t 2jio.l 2jlw.t 2jnk.l 2jue.t 2juo.l 2jvr.t ",
     "2jvt.l 2jxh.6 2jxj.5 2jxm.l 2jxp.6 2jxv.q 2jy3.5 2jyb.l 2jyd.5 2jyk.l 2jze.5 2jzi.l 2k17.t ",
     "2k1s.l 2k3m.5 2k3p.l 2k3q.t 2k74.a 2k7o.t 2k80.a 2k8k.t 2k8w.l 2kbb.t 2kbk.a 2kc9.t 2kg0.0 ",
     "2kgq.1 2khg.0 2ki6.1 2kid.t 2kie.1 2kiw.0 2kjm.1 2kkc.0 2kkd.t 2kke.0 2kkg.t 2kki.0 2kkj.t ",
     "2kkl.0 2kkn.t 2kkp.0 2kkt.t 2kku.0 2kl2.1 2kl6.t 2kl7.1 2kl8.t 2kl9.1 2klg.t 2klh.1 2kls.0 ",
     "2kmi.1 2kn8.0 2kna.t 2knb.0 2knf.t 2knh.0 2knp.t 2knq.0 2knx.t 2kny.1 2koo.0 2koq.t 2kor.0 ",
     "2kov.t 2kow.0 2kp1.t 2kp2.0 2kp3.t 2kp6.0 2kpd.t 2kpe.1 2kq4.0 2kqu.1 2krk.0 2ksa.1 2kt0.0 ",
     "2ktq.1 2kug.0 2kv6.1 2kvw.0 2kwm.1 2kxc.0 2ky2.1 2kyu.t 2kyw.0 2kzl.i 2kzm.1 2l0b.i 2l0c.1 ",
     "2l0i.0 2l17.i 2l18.1 2l1x.i 2l1y.1 2l24.0 2l2t.i 2l2u.1 2l3j.i 2l3k.1 2l3q.0 2l4f.i 2l4g.1 ",
     "2l55.i 2l56.1 2l5c.0 2l61.i 2l62.1 2l6r.i 2l6s.1 2l6y.0 2l6z.1 2l70.t 2l72.8 2l8g.l 2lmo.5 ",
     "2lo7.l 2lob.5 2lpp.l 2lpx.5 2lpy.l 2lqc.5 2lqd.l 2lqf.h 2lqk.t 2lqz.5 2lr4.t 2lr5.5 2lrk.t ",
     "2mm8.1 2mmi.4 2mmj.1 2mn3.t 2mn9.1 2mnf.t 2mtc.5 2mtj.t 2mtk.5 2mu1.t 2mu3.5 2mua.t 2mub.5 ",
     "2mud.t 2mue.5 2muj.t 2muo.3 2mwe.t 2mxb.5 2mxc.t 2n0g.4 2n1p.t 2n1s.5 2n1z.3 2n26.t 2n28.8 ",
     "2n2i.t 2n2m.4 2n2n.l 2n2o.t 2nbk.4 2nce.5 2ncf.t 2ncw.4 2ne4.5 2ne8.8 2nei.t 2nen.j 2neo.t ",
     "2nrk.4 2nsb.3 2nsc.5 2nsg.8 2nsq.t 2odc.4 2odj.t 2odk.4 2odo.t 2odp.4 2odr.t 2ods.4 2oe7.t ",
     "2oe8.4 2ojp.t 2ojr.a 2ok0.5 2ok7.t 2olc.0 2oma.1 2on8.5 2onf.3 2ong.t 2onk.8 2onu.t 2ony.h ",
     "2oo0.t 2p9t.a 2pbg.l 2pbh.a 2pbk.j 2pbl.a 2pbp.t 2pdt.a 2pf2.l 2pf3.a 2pfi.t 2pkw.4 2pl0.t ",
     "2pl1.4 2pls.t 2plt.4 2plv.t 2plw.4 2plx.t 2plz.4 2pm0.t 2pm1.4 2pmb.t 2pmc.4 2pmg.t 2pmh.4 ",
     "2pmi.t 2pmj.4 2pmk.t 2pmq.4 2pmr.t 2pmv.4 2pmw.t 2pmx.4 2pmy.t 2pmz.4 2pn0.t 2pn1.4 2pn4.t ",
     "2pn5.4 2pn7.t 2pn8.4 2pn9.t 2pnb.4 2pnc.t 2pnd.4 2pne.t 2pnf.4 2png.t 2pnh.4 2pni.t 2pnj.4 ",
     "2pnk.t 2pnl.4 2pnn.t 2pno.4 2pnp.t 2pnr.4 2pnv.t 2pnw.4 2po3.t 2po4.4 2po8.t 2po9.4 2pod.t ",
     "2poe.4 2pof.t 2pog.4 2poq.t 2por.4 2pp8.t 2ppd.4 2ppg.t 2pph.4 2ppm.t 2ppn.4 2pq4.t 2prk.i ",
     "2prm.t 2pz4.l 2q0c.t 2q0g.l 2q38.t 2q3k.l 2q3z.t 2q41.l 2q4g.t 2q4h.l 2q4w.t 2q4x.l 2q5y.t ",
     "2q68.a 2q6l.l 2qb2.t 2qcm.l 2qdf.t 2qds.l 2qf0.t 2qf4.l 2qfd.t 2qfk.l 2qfm.t 2qg0.l 2qg6.t ",
     "2qkg.l 2qrf.k 2qrk.l 2rbs.t 2rbw.l 2rcd.t 2rcg.l 2rct.t 2rcw.l 2rg7.t 2rgb.l 2riy.t 2rj4.l ",
     "2rjg.t 2rjk.l 2rjl.t 2rk0.l 2rkc.t 2rkg.l 2rm0.t 2rm8.l 2rmi.t 2rmo.l 2rns.t 2ro0.l 2rou.t ",
     "2row.l 2roy.t 2rr4.l 2s0k.t 2s0w.l 2s1a.t 2s1c.l 2s1p.t 2s1s.l 2s21.t 2s28.l 2s3i.t 2s3j.l ",
     "2s3q.t 2s3y.l 2s4c.t 2s4g.l 2s4p.t 2s4w.l 2s55.t 2s5c.l 2s9f.t 2s9g.l 2saz.t 2sc0.8 2sca.t ",
     "2t4w.4 3q3k.t 3q4g.4 3tbu.t 3tc0.4 3ti6.t 3ti8.4 3xya.t 3xyo.4 43q9.t 464g.4 46ji.t 47pc.4 ",
     "4bij.t 4bio.4 4er4.t jny9.q jnya.t jnz4.q jo1s.t jo5c.5 joc0.t l2io.s mh32.t mh34.s nvni.t"]

def categoryRuns : Array (Nat × Nat) := readRuns categoryTable

/-- The general category of a character. -/
def Category.of (c : Char) : Category := Category.all.getD (runValue categoryRuns c.toNat) .Cn

/-- The one-letter group of a category: `L`, `M`, `N`, `P`, `S`, `Z` or `C`. -/
def Category.major : Category → Char
  | .Lu | .Ll | .Lt | .Lm | .Lo => 'L'
  | .Mn | .Mc | .Me => 'M'
  | .Nd | .Nl | .No => 'N'
  | .Pc | .Pd | .Ps | .Pe | .Pi | .Pf | .Po => 'P'
  | .Sm | .Sc | .Sk | .So => 'S'
  | .Zs | .Zl | .Zp => 'Z'
  | .Cc | .Cf | .Cs | .Co | .Cn => 'C'

end Covenant.Text.Unicode
